import SellerSync.Session.Basic
import SellerSync.Web.Method
/-! Session operations on accounts, credentials, API calls, webhook subscriptions, refreshes and
connections. -/
namespace SellerSync

namespace SessionOps

open SessionM

def readFlags (j : Json) : Except Failure AccountFlags := do
  match j with
  | .null => pure {}
  | .obj _ =>
    let d : AccountFlags := {}
    let get := fun (k : String) (v : Bool) => match j.get? k with
      | some (.bool b) => pure b
      | none | some .null => pure v
      | some _ => Field.bad ("flags." ++ k ++ " must be a boolean")
    pure ⟨← get "orders_in" d.ordersIn, ← get "inventory_out" d.inventoryOut,
      ← get "fulfillment_out" d.fulfillmentOut, ← get "labels" d.labels⟩
  | _ => Field.bad "flags must be an object"

def readStatus (j : Json) : Except Failure AccountStatus :=
  match j with
  | .str s =>
    match AccountStatus.ofName? s with
    | some st => pure st
    | none => Field.bad "status must be active or inactive"
  | _ => Field.bad "status must be active or inactive"

def strings (req : Json) (k : String) : Except Failure (List String) := do
  match Field.get req k with
  | .null => pure []
  | .arr xs => xs.mapM fun
    | .str s => pure s
    | _ => Field.bad (k ++ " must be an array of strings")
  | _ => Field.bad (k ++ " must be an array of strings")

def accountView (a : ChannelAccount) : SessionM Json := return View.account (← origin) a

def registerAccount (req : Json) : SessionM Json := do
  let ref ← field (Field.str req "ref")
  let sellerId ← seller (← field (Field.str req "seller"))
  let marketplace ← field (Field.marketplace req "marketplace")
  let externalId ← field (Field.optStr req "external_id")
  let accessToken ← field (Field.optStr req "access_token")
  let refreshToken ← field (Field.optStr req "refresh_token")
  let accessTokenExpiresAt ← optTime req "access_token_expires_at"
  let refreshTokenExpiresAt ← optTime req "refresh_token_expires_at"
  let lastSyncedAt ← optTime req "last_synced_at"
  let region ← field (Field.optStr req "region")
  let marketplaceIds ← field (strings req "marketplace_ids")
  let flags ← field (readFlags (Field.get req "flags"))
  let status ← match Field.get req "status" with
    | .null => pure AccountStatus.active
    | j => field (readStatus j)
  let id ← sync SyncM.freshId
  let at_ ← sync SyncM.now
  let incoming := { ChannelAccount.new id sellerId marketplace externalId at_ with
    accessToken, refreshToken, accessTokenExpiresAt, refreshTokenExpiresAt, region,
    marketplaceIds, flags, status, lastSyncedAt }
  let stamp ← sync SyncM.now
  let stored ← sync (SyncM.onStore (·.upsertAccount incoming stamp))
  bindRef ref stored
  accountView stored

def getAccount (req : Json) : SessionM Json := do
  let id ← accountRef (← field (Field.str req "account"))
  match (← store).account? id with
  | some a => accountView a
  | none => return .null

def findAccount (req : Json) : SessionM Json := do
  let m ← field (Field.marketplace req "marketplace")
  let ext ← field (Field.str req "external_id")
  match (← store).findAccount m ext with
  | some a => accountView a
  | none => return .null

def accountsForSeller (req : Json) : SessionM Json := do
  let sellerId ← seller (← field (Field.str req "seller"))
  let m ← field (Field.marketplace req "marketplace")
  let start ← origin
  return .arr (((← store).accountsForSeller sellerId m).map (View.account start))

def activeAccounts (req : Json) : SessionM Json := do
  let ms ← (← field (Field.array req "marketplaces")).mapM fun j =>
    field (Field.marketplace (Json.object [("marketplace", j)]) "marketplace")
  let start ← origin
  return .arr (((← store).activeAccounts ms).map (View.account start))

def deleteAccount (req : Json) : SessionM Json := do
  let id ← accountRef (← field (Field.str req "account"))
  let sellerId ← seller (← field (Field.str req "seller"))
  let deleted ← sync (SyncM.onStoreE (·.deleteAccount id sellerId))
  return Json.object [("deleted", .bool deleted)]

def ok : Json := Json.object [("ok", .bool true)]

def setStatus (req : Json) : SessionM Json := do
  let id ← accountRef (← field (Field.str req "account"))
  let status ← field (readStatus (Field.get req "status"))
  sync do
    let at_ ← SyncM.now
    SyncM.setStore (← SyncM.expect ((← SyncM.store).setAccountStatus id status at_))
  return ok

def markSynced (req : Json) : SessionM Json := do
  let id ← accountRef (← field (Field.str req "account"))
  let at_ ← time req "at"
  sync do SyncM.setStore (← SyncM.expect ((← SyncM.store).markSynced id at_))
  return ok

def tokenUpdate (req : Json) : SessionM Json := do
  let id ← accountRef (← field (Field.str req "account"))
  let update : TokenUpdate :=
    ⟨← field (Field.str req "access_token"), ← optTime req "access_token_expires_at",
      ← field (Field.optStr req "refresh_token"), ← optTime req "refresh_token_expires_at"⟩
  let a ← sync do
    let at_ ← SyncM.now
    SyncM.onStoreE (·.applyTokenUpdate id update at_)
  accountView a

def acquireCredential (req : Json) : SessionM Json := do
  let account ← SessionM.account req
  let token ← sync (Credential.acquire account.id)
  return Json.object [("token", .str token)]

def execute (req : Json) : SessionM Json := do
  let account ← SessionM.account req
  let method ← field (Field.str req "method")
  if !Method.isValid method then bad ("invalid method " ++ method)
  let call : ApiRequest :=
    { method, path := ← field (Field.str req "path"), query := ← field (Field.pairs req "query"),
      body := match Field.get req "body" with
        | .null => none
        | j => some j
      headers := ← field (Field.pairs req "headers") }
  return View.response (← sync (Executor.execute account call))

def registerWebhooks (req : Json) : SessionM Json := do
  let account ← SessionM.account req
  let address ← field (Field.str req "address")
  return View.registration (← sync (Subscriptions.register account address))

def refreshAccount (req : Json) : SessionM Json := do
  let id ← accountRef (← field (Field.str req "account"))
  return View.pullReport (← sync (Pull.refreshAccount id))

def tick (req : Json) : SessionM Json := do
  let name ← field (Field.str req "family")
  let some family := ChannelFamily.ofName? name | bad "family must be storefront or amazon"
  let at_ ← match Field.get req "now" with
    | .null => sync SyncM.now
    | .str s => parseTime s
    | _ => bad "now must be a string"
  return View.tick (← sync (Tick.run family at_))

def nonceText (text : String) : SessionM String := do
  if text.startsWith "nonce#" then
    match (text.drop 6).toString.toNat? with
    | some i =>
      if 0 < i && i ≤ (← get).service.nonces then return Service.nonceOf i else return text
    | none => return text
  else return text

def oauthBegin (req : Json) : SessionM Json := do
  let sellerId ← seller (← field (Field.str req "seller"))
  let marketplace ← field (Field.marketplace req "marketplace")
  let request : NewAuthorization :=
    { sellerId, marketplace, region := ← field (Field.optStr req "region"),
      shopDomain := ← field (Field.optStr req "shop_domain"),
      externalId := ← field (Field.optStr req "external_id"),
      redirectTo := ← field (Field.optStr req "redirect_to") }
  let start ← sync (Connect.begin request)
  return Json.object [("authorize_url", .str start.authorizeUrl),
    ("transaction", View.transaction (← origin) start.transaction),
    ("nonce_length", .ofNat start.transaction.nonce.length)]

def oauthConsume (req : Json) : SessionM Json := do
  let nonce ← nonceText (← field (Field.str req "nonce"))
  let marketplace ← field (Field.marketplace req "marketplace")
  let t ← sync (Connect.consume nonce marketplace)
  return View.transaction (← origin) t

def callbackParams (j : Json) : SessionM CallbackParams := do
  let text := fun (k : String) => field (Field.optStr j k)
  let state ← match ← text "state" with
    | some s => some <$> nonceText s
    | none => pure none
  let code ← match ← text "code" with
    | some c => pure (some c)
    | none => text "spapi_oauth_code"
  return { state, code, shop := ← text "shop",
           sellingPartnerId := ← text "selling_partner_id",
           marketplaceIds := ← text "marketplace_ids", error := ← text "error",
           errorDescription := ← text "error_description" }

def completeAuthorization (req : Json) : SessionM Json := do
  let marketplace ← field (Field.marketplace req "marketplace")
  let params ← callbackParams (Field.get req "params")
  let outcome ← sync (Connect.complete marketplace params)
  if let some ref ← field (Field.optStr req "ref") then bindRef ref outcome.account
  return View.connection (← origin) outcome

end SessionOps

end SellerSync
