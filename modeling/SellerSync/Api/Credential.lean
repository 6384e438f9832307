import SellerSync.Service.Basic
import SellerSync.Store.Accounts
import SellerSync.Codec.Base64
import SellerSync.Web.Percent
import SellerSync.Json.Read
/-! Access tokens of connected accounts. -/
namespace SellerSync

namespace TokenEndpoint

open SyncM

/-- At most 512 bytes of a body, cut at a character boundary, with an ellipsis when cut. -/
def truncate (text : String) : String :=
  if text.utf8ByteSize ≤ 512 then text
  else
    let kept := text.toList.foldl (fun (acc : List Char × Nat) c =>
      if acc.2 + c.utf8Size ≤ 512 then (c :: acc.1, acc.2 + c.utf8Size) else (acc.1, 513)) ([], 0)
    String.ofList kept.1.reverse ++ "…"

/-- The grant in a token endpoint's response. -/
def readGrant (r : HttpResponse) : Except SyncError TokenGrant :=
  if !(200 ≤ r.status && r.status < 300) then .error (.credentialRefreshFailed r.status (truncate r.body))
  else
    match Json.parse r.body with
    | .error e => .error (.credentialRefreshFailed r.status ("unreadable token response: " ++ e))
    | .ok j =>
      (TokenGrant.decode j).mapError fun e =>
        .credentialRefreshFailed r.status ("unreadable token response: " ++ e.message)

def post (url : String) (headers : List (String × String)) (body : String) : SyncM TokenGrant := do
  match ← transmit (Client.request "POST" url headers body.toUTF8.toList) with
  | .error m => fail (.transport m)
  | .ok r => expect (readGrant r)

def formHeaders : List (String × String) :=
  [("content-type", "application/x-www-form-urlencoded")]

/-- A token request to a shop, with a JSON body. -/
def shopify (c : ShopifySettings) (shop : String) (body : Json) : SyncM TokenGrant := do
  if c.clientId.isEmpty || c.clientSecret.isEmpty then
    fail (.configuration "SHOPIFY_CLIENT_ID or SHOPIFY_CLIENT_SECRET not configured")
  post (c.shopBase shop ++ "/admin/oauth/access_token") [("content-type", "application/json")]
    body.render

def shopifyExchange (c : ShopifySettings) (shop code : String) : SyncM TokenGrant :=
  shopify c shop (Json.object [("client_id", .str c.clientId),
    ("client_secret", .str c.clientSecret), ("code", .str code)])

def shopifyRefresh (c : ShopifySettings) (shop token : String) : SyncM TokenGrant :=
  shopify c shop (Json.object [("client_id", .str c.clientId),
    ("client_secret", .str c.clientSecret), ("grant_type", .str "refresh_token"),
    ("refresh_token", .str token)])

/-- A token request to eBay, authenticated with the client's id and secret. -/
def ebay (c : EbaySettings) (form : List (String × String)) : SyncM TokenGrant := do
  if c.clientId.isEmpty || c.clientSecret.isEmpty then
    fail (.configuration "EBAY_CLIENT_ID or EBAY_CLIENT_SECRET not configured")
  let basic := "Basic " ++ Base64.encode (c.clientId ++ ":" ++ c.clientSecret).toUTF8.toList
  post c.tokenUrl (("authorization", basic) :: formHeaders) (Percent.formSerialize form)

def ebayExchange (c : EbaySettings) (code : String) : SyncM TokenGrant :=
  ebay c [("grant_type", "authorization_code"), ("code", code), ("redirect_uri", c.ruName)]

def ebayRefresh (c : EbaySettings) (token : String) : SyncM TokenGrant :=
  ebay c [("grant_type", "refresh_token"), ("refresh_token", token), ("scope", c.scope)]

/-- A token request to Login with Amazon. -/
def amazon (c : AmazonSettings) (form : List (String × String)) : SyncM TokenGrant := do
  if c.clientId.isEmpty || c.clientSecret.isEmpty then
    fail (.configuration "AMAZON_LWA_CLIENT_ID or AMAZON_LWA_CLIENT_SECRET not configured")
  post c.tokenUrl formHeaders (Percent.formSerialize form)

def amazonExchange (c : AmazonSettings) (code : String) : SyncM TokenGrant :=
  amazon c [("grant_type", "authorization_code"), ("code", code), ("client_id", c.clientId),
    ("client_secret", c.clientSecret), ("redirect_uri", c.redirectUri)]

def amazonRefresh (c : AmazonSettings) (token : String) : SyncM TokenGrant :=
  amazon c [("grant_type", "refresh_token"), ("refresh_token", token), ("client_id", c.clientId),
    ("client_secret", c.clientSecret)]

end TokenEndpoint

namespace Credential

open SyncM

def refreshGrant (cfg : Settings) (account : ChannelAccount) (refresh : String) :
    SyncM TokenGrant :=
  match account.marketplace with
  | .shopify => do
    let some shop := account.externalId |
      fail (.configuration ("shopify account " ++ account.id.toText ++ " has no shop"))
    TokenEndpoint.shopifyRefresh cfg.shopify shop refresh
  | .ebay => TokenEndpoint.ebayRefresh cfg.ebay refresh
  | .amazon => TokenEndpoint.amazonRefresh cfg.amazon refresh

def renew (account : ChannelAccount) (at_ : Instant) : SyncM String := do
  let some refresh := account.refreshToken | fail (.credentialMissing account.id)
  let grant ← refreshGrant (← settings) account refresh
  let update ← expect (grant.toUpdate at_)
  let stamp ← now
  let updated ← onStoreE (·.applyTokenUpdate account.id update stamp)
  match updated.accessToken with
  | some t => return t
  | none => fail (.credentialMissing account.id)

/-- A token for the account that is good for at least the refresh margin, renewed and stored
first when needed. -/
def acquire (accountId : Uuid) : SyncM String := do
  let account ← expect ((← store).requireAccount accountId)
  let at_ ← now
  if let some token := account.accessToken then
    if !needsRefresh account.accessTokenExpiresAt at_ then return token
  renew account at_

/-- Redeems an authorization code at the marketplace of the authorization. -/
def exchangeCode (t : OAuthTransaction) (code : String) : SyncM TokenGrant := do
  let cfg ← settings
  match t.marketplace with
  | .shopify =>
    let some shop := t.shopDomain | fail (.oauthState "shopify authorization has no shop")
    TokenEndpoint.shopifyExchange cfg.shopify shop code
  | .ebay => TokenEndpoint.ebayExchange cfg.ebay code
  | .amazon => TokenEndpoint.amazonExchange cfg.amazon code

end Credential

end SellerSync
