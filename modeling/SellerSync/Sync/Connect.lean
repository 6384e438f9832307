import SellerSync.Sync.Subscriptions
import SellerSync.Auth.Consent
import SellerSync.Auth.Grant
import SellerSync.Amazon.Region
/-! Connecting a seller's marketplace account. -/
namespace SellerSync

/-- A started authorization and the URL to send the seller to. -/
structure AuthorizationStart where
  transaction : OAuthTransaction
  authorizeUrl : String
  deriving Repr, Inhabited

/-- What a marketplace sends back to the callback. -/
structure CallbackParams where
  state : Option String := none
  code : Option String := none
  shop : Option String := none
  sellingPartnerId : Option String := none
  /-- Comma separated. -/
  marketplaceIds : Option String := none
  error : Option String := none
  errorDescription : Option String := none
  deriving Repr, Inhabited

/-- A completed connection. -/
structure ConnectionOutcome where
  account : ChannelAccount
  webhooks : Option WebhookRegistration
  report : Option PullReport
  redirectTo : Option String
  deriving Repr, Inhabited

namespace Connect

open SyncM

def settle (request : NewAuthorization) : SyncM NewAuthorization := do
  let cfg ← settings
  match request.marketplace with
  | .shopify =>
    match request.shopDomain.bind Consent.shopDomain? with
    | some shop => return { request with shopDomain := some shop }
    | none => fail (.configuration "a valid shop domain is required")
  | .amazon =>
    let given := (request.region.map fun r => Text.toLower (Text.trim r)).filter (!·.isEmpty)
    return { request with region := some (given.getD cfg.amazon.region) }
  | .ebay => return request

/-- Issues a nonce for the request and keeps its transaction, dropping expired ones. -/
def issue (request : NewAuthorization) : SyncM OAuthTransaction := do
  let nonce ← freshNonce
  let issuedAt ← now
  let some expiresAt := issuedAt.addSpan? (Span.ofSeconds OAuthTransaction.lifetimeSecs) |
    fail SyncError.instantOutOfRange
  let t : OAuthTransaction :=
    { nonce, sellerId := request.sellerId, marketplace := request.marketplace,
      region := request.region, shopDomain := request.shopDomain,
      externalId := request.externalId, redirectTo := request.redirectTo, expiresAt }
  let at_ ← now
  modify fun s => { s with pending := (s.pending.filter fun x => Instant.lt at_ x.expiresAt) ++ [t] }
  return t

/-- Starts an authorization: the transaction and its consent URL. -/
def begin (request : NewAuthorization) : SyncM AuthorizationStart := do
  let t ← issue (← settle request)
  let cfg ← settings
  let url := match t.marketplace with
    | .shopify => Consent.shopifyUrl cfg.shopify (t.shopDomain.getD "")
        (cfg.appBaseUrl ++ "/oauth/shopify/callback") t.nonce
    | .ebay => Consent.ebayUrl cfg.ebay t.nonce
    | .amazon => Consent.amazonUrl cfg.amazon (t.region.getD "na") t.nonce
  return ⟨t, url⟩

/-- Redeems a nonce for a marketplace; the nonce is gone afterwards whatever the outcome. -/
def consume (nonce : String) (marketplace : Marketplace) : SyncM OAuthTransaction := do
  let at_ ← now
  let s ← get
  let (rest, result) := OAuthTransaction.consume s.pending nonce marketplace at_
  set { s with pending := rest }
  expect result

def amazonMarketplaces (region : String) (given : Option String) : List String :=
  let ids := ((given.getD "").splitOn ",").map Text.trim |>.filter (!·.isEmpty)
  if ids.isEmpty then [(AmazonRegion.ofName region).defaultMarketplaceId] else ids

def connectedAccount (marketplace : Marketplace) (t : OAuthTransaction) (params : CallbackParams)
    (update : TokenUpdate) : SyncM ChannelAccount := do
  let externalId := match marketplace with
    | .shopify => t.shopDomain
    | .ebay => t.externalId
    | .amazon => params.sellingPartnerId.or t.externalId
  let known := ((← store).accountsForSeller t.sellerId marketplace).find? fun a =>
    externalId.isNone || a.externalId == externalId
  let account ← match known with
    | some a => pure a
    | none => do
      let id ← freshId
      let at_ ← now
      pure (ChannelAccount.new id t.sellerId marketplace externalId at_)
  let account :=
    { account with
      accessToken := some update.accessToken
      accessTokenExpiresAt := update.accessTokenExpiresAt }
  let account := if update.refreshToken.isSome then
      { account with
        refreshToken := update.refreshToken
        refreshTokenExpiresAt := update.refreshTokenExpiresAt }
    else account
  let account := { account with status := .active }
  match marketplace with
  | .amazon =>
    let region := t.region.getD "na"
    return { account with
      marketplaceIds := amazonMarketplaces region params.marketplaceIds
      region := some region }
  | .ebay =>
    if account.marketplaceIds.isEmpty then
      return { account with marketplaceIds := [(← settings).ebay.marketplaceId] }
    else return account
  | .shopify => return account

def authorize (marketplace : Marketplace) (params : CallbackParams) :
    SyncM (OAuthTransaction × String) := do
  let some state := params.state | fail (.oauthState "callback carries no state")
  let t ← consume state marketplace
  if let some refusal := params.error then
    fail (.oauthState ("authorization denied: " ++ refusal ++ " " ++ params.errorDescription.getD ""))
  let some code := params.code.filter (fun c => !(Text.trim c).isEmpty) |
    fail (.oauthState "callback carries no code")
  if marketplace == .shopify then
    if let some shop := params.shop then
      if Consent.shopDomain? shop != t.shopDomain then
        fail (.oauthState "callback shop does not match the authorization")
  return (t, code)

/-- Completes an authorization from its callback: the code is exchanged only once the callback
is authorized. -/
def complete (marketplace : Marketplace) (params : CallbackParams) : SyncM ConnectionOutcome := do
  let (t, code) ← authorize marketplace params
  let grant ← Credential.exchangeCode t code
  let update ← expect (grant.toUpdate (← now))
  let account ← connectedAccount marketplace t params update
  let at_ ← now
  let account ← onStore (·.upsertAccount account at_)
  let webhooks ← if marketplace == .shopify then do
      let address := (← settings).appBaseUrl ++ "/webhooks/shopify"
      match ← attempt (Subscriptions.register account address) with
      | .ok r => pure (some r)
      | .error _ => pure none
    else pure none
  let report := match ← attempt (Pull.refreshAccount account.id) with
    | .ok r => some r
    | .error _ => none
  let account := ((← store).account? account.id).getD account
  return ⟨account, webhooks, report, t.redirectTo⟩

end Connect

end SellerSync
