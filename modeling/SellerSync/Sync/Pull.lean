import SellerSync.Api.Executor
import SellerSync.Pipeline
import SellerSync.Time.Rfc3339
import SellerSync.Web.Percent
/-! Pulling a connected account's recent records from its marketplace. Every pull looks back two days. -/
namespace SellerSync

/-- What one pull brought in, with the failures it got over. -/
structure PullReport where
  orders : Nat := 0
  skippedOrders : Nat := 0
  products : Nat := 0
  inventory : Nat := 0
  warnings : List String := []
  deriving Repr, Inhabited

namespace PullReport

def warn (r : PullReport) (context : String) (e : SyncError) : PullReport :=
  { r with warnings := r.warnings ++ [context ++ ": " ++ e.message] }

def absorb (r : PullReport) (s : BatchSummary) : PullReport :=
  { r with orders := r.orders + s.applied, skippedOrders := r.skippedOrders + s.skipped }

end PullReport

namespace Pull

open SyncM

def windowSecs : Int := 2 * 24 * 60 * 60

def maxPages : Nat := 100

/-- The array under `field` of an object; empty for anything else. -/
def arrayField (body : Json) (field : String) : List Json :=
  match body.get? field with
  | some (.arr xs) => xs
  | _ => []

def idText : Json → String
  | .str s => s
  | j => j.render

def windowStart (t : Instant) : Instant := (t.subSpan? (Span.ofSeconds windowSecs)).getD t

/-! ### Storefronts -/

def adminPath (resource : String) : SyncM String := do
  return "/admin/api/" ++ (← settings).shopify.apiVersion ++ "/" ++ resource

def shopifyProducts (account : ChannelAccount) : SyncM (List Json) := do
  let req := (ApiRequest.get (← adminPath "products.json")).withQuery "limit" "250"
  return arrayField (← Executor.execute account req).toJson "products"

def shopifyOrders (account : ChannelAccount) (since : Instant) : SyncM (List Json) := do
  let req := ((((ApiRequest.get (← adminPath "orders.json")).withQuery "status" "any").withQuery
    "limit" "50").withQuery "order" "updated_at desc").withQuery "updated_at_min"
    (Rfc3339.renderSeconds since)
  return arrayField (← Executor.execute account req).toJson "orders"

/-- Stock levels at the shop's first location; none when the shop lists no location. -/
def shopifyLevels (account : ChannelAccount) : SyncM (List Json) := do
  let locations ← Executor.execute account (ApiRequest.get (← adminPath "locations.json"))
  let some first := (arrayField locations.toJson "locations").head? | return []
  let some location := first.get? "id" | return []
  let req := ((ApiRequest.get (← adminPath "inventory_levels.json")).withQuery "limit" "250").withQuery
    "location_ids" (idText location)
  return arrayField (← Executor.execute account req).toJson "inventory_levels"

def shopify (account : ChannelAccount) (since : Instant) : SyncM PullReport := do
  let mut report : PullReport := {}
  match ← attempt (shopifyProducts account) with
  | .ok products =>
    for product in products do
      match Shopify.translateProduct product with
      | .ok p =>
        let _ ← Pipeline.applyProduct account p
        report := { report with products := report.products + 1 }
      | .error e => report := report.warn "product" e
  | .error e => if e.isAuthFailure then fail e else report := report.warn "products pull" e
  let mut raws : List RawOrder := []
  for value in ← shopifyOrders account since do
    match RawOrder.read .shopify value with
    | .ok r => raws := raws ++ [r]
    | .error e => report := report.warn "order" e
  report := report.absorb (← Pipeline.applyRawOrders account raws .poll)
  match ← attempt (shopifyLevels account) with
  | .ok levels =>
    for level in levels do
      match Shopify.translateLevel level with
      | .ok stock =>
        if (← Pipeline.applyStock account stock).isSome then
          report := { report with inventory := report.inventory + 1 }
      | .error e => report := report.warn "inventory level" e
  | .error e => if e.isAuthFailure then fail e else report := report.warn "inventory pull" e
  return report

/-! ### eBay -/

/-- A `next` link as a request path: relative to the API base when it lies below it, as it is
when it is another absolute URL, and rooted otherwise; none when blank. -/
def nextPath (apiBase next : String) : Option String :=
  let next := Text.trim next
  if next.isEmpty then none
  else if apiBase.isPrefixOf next then some (next.drop apiBase.length).toString
  else if next.startsWith "http://" || next.startsWith "https://" then some next
  else if next.startsWith "/" then some next
  else some ("/" ++ next)

def nextLink (apiBase : String) (page : Json) : Option String :=
  match page.get? "next" with
  | some (.str link) => nextPath apiBase link
  | _ => none

/-- The records under `field` of a listing and of the pages its `next` links lead to. -/
def ebayPages (account : ChannelAccount) (field : String) :
    (fuel : Nat) → ApiRequest → List Json → SyncM (List Json)
  | 0, _, acc => return acc
  | fuel + 1, req, acc => do
    let page := (← Executor.execute account req).toJson
    let records := acc ++ arrayField page field
    match nextLink (← settings).ebay.apiBaseUrl page with
    | some path => ebayPages account field fuel (ApiRequest.get path) records
    | none => return records

def ebayOrders (account : ChannelAccount) (since : Instant) : SyncM (List Json) := do
  let upTo ← now
  let filter := "creationdate:[" ++ Rfc3339.renderMillis since ++ ".." ++ Rfc3339.renderMillis upTo ++ "]"
  let first := ((ApiRequest.get "/sell/fulfillment/v1/order").withQuery "limit" "50").withQuery
    "filter" filter
  ebayPages account "orders" maxPages first []

def ebayItems (account : ChannelAccount) : SyncM (List Json) :=
  ebayPages account "inventoryItems" maxPages
    ((ApiRequest.get "/sell/inventory/v1/inventory_item").withQuery "limit" "50") []

def ebay (account : ChannelAccount) (since : Instant) : SyncM PullReport := do
  let mut report : PullReport := {}
  let mut raws : List RawOrder := []
  for value in ← ebayOrders account since do
    match RawOrder.read .ebay value with
    | .ok r => raws := raws ++ [r]
    | .error e => report := report.warn "order" e
  report := report.absorb (← Pipeline.applyRawOrders account raws .poll)
  match ← attempt (ebayItems account) with
  | .ok items =>
    for item in items do
      match Ebay.translateItem item with
      | .ok stock =>
        if (← Pipeline.applyStock account stock).isSome then
          report := { report with inventory := report.inventory + 1 }
      | .error e => report := report.warn "inventory item" e
  | .error e => if e.isAuthFailure then fail e else report := report.warn "inventory pull" e
  return report

/-! ### Amazon -/

/-- The records under `field` of a page and its continuation token; results may be wrapped in
`payload`. -/
def pageParts (page : Json) (field : String) : List Json × Option String :=
  let body := (page.get? "payload").getD page
  let records := arrayField body field
  let next := match body.get? "NextToken" with
    | some (.str t) => if t.isEmpty then none else some t
    | _ => none
  (records, next)

/-- The records of a listing at `path` and of its continuation pages. -/
def amazonPages (account : ChannelAccount) (path field : String) :
    (fuel : Nat) → ApiRequest → List Json → SyncM (List Json)
  | 0, _, acc => return acc
  | fuel + 1, req, acc => do
    let (batch, next) := pageParts (← Executor.execute account req).toJson field
    match next with
    | some token =>
      amazonPages account path field fuel ((ApiRequest.get path).withQuery "NextToken" token)
        (acc ++ batch)
    | none => return acc ++ batch

def orderStatuses : String := "Unshipped,PartiallyShipped,Shipped,Unfulfillable"

def fulfillmentChannels : String := "MFN,AFN"

def amazonOrders (account : ChannelAccount) (since : Instant) : SyncM (List Json) :=
  let path := "/orders/v0/orders"
  let first := ((((ApiRequest.get path).withQuery "MarketplaceIds"
    (",".intercalate account.marketplaceIds)).withQuery "CreatedAfter"
    (Rfc3339.renderSeconds since)).withQuery "OrderStatuses" orderStatuses).withQuery
    "FulfillmentChannels" fulfillmentChannels
  amazonPages account path "Orders" maxPages first []

def amazonItems (account : ChannelAccount) (orderId : String) : SyncM (List Json) :=
  let path := "/orders/v0/orders/" ++ Percent.encodeComponent orderId ++ "/orderItems"
  amazonPages account path "OrderItems" maxPages (ApiRequest.get path) []

def amazon (account : ChannelAccount) (since : Instant) : SyncM PullReport := do
  let mut report : PullReport := {}
  if account.marketplaceIds.isEmpty then
    return { report with warnings := ["account has no marketplace ids"] }
  let mut bundles : List RawOrder := []
  for order in ← amazonOrders account since do
    match order.get? "AmazonOrderId" with
    | some (.str orderId) =>
      if orderId.isEmpty then
        report := { report with skippedOrders := report.skippedOrders + 1 }
      else
        match ← attempt (amazonItems account orderId) with
        | .error e =>
          if e.isAuthFailure then fail e
          report := { report.warn "order items" e with skippedOrders := report.skippedOrders + 1 }
        | .ok items =>
          match RawOrder.readAmazon order items with
          | .ok b => bundles := bundles ++ [b]
          | .error e =>
            report := { report.warn "order" e with skippedOrders := report.skippedOrders + 1 }
    | _ => report := { report with skippedOrders := report.skippedOrders + 1 }
  return report.absorb (← Pipeline.applyRawOrders account bundles .poll)

/-! ### Refreshing an account -/

def marketplacePull (account : ChannelAccount) (since : Instant) : SyncM PullReport :=
  match account.marketplace with
  | .shopify => shopify account since
  | .ebay => ebay account since
  | .amazon => amazon account since

def conclude (account : ChannelAccount) : Except SyncError PullReport → SyncM PullReport
  | .ok report => do
    let t ← now
    setStore (← expect ((← store).markSynced account.id t))
    return report
  | .error e => do
    if e.isAuthFailure then
      let t ← now
      setStore (← expect ((← store).setAccountStatus account.id .inactive t))
    fail e

/-- Pulls an active account's marketplace and stamps the sync time when the pull succeeds. An
account that takes no orders is only stamped; a rejected credential turns the account inactive. -/
def refreshAccount (accountId : Uuid) : SyncM PullReport := do
  let account ← expect ((← store).requireAccount accountId)
  if !account.isActive then
    fail (.configuration ("account " ++ accountId.toText ++ " is inactive"))
  if !account.flags.ordersIn then
    let t ← now
    setStore (← expect ((← store).markSynced account.id t))
    return {}
  let since := windowStart (← now)
  conclude account (← attempt (marketplacePull account since))

end Pull

end SellerSync
