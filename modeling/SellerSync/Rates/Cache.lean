import SellerSync.Rates.Quote
import SellerSync.Service.Basic
import SellerSync.Store.Quotes
import SellerSync.Order.Fields
/-! Quotes from a provider, cached by destination, weight band and item count. -/
namespace SellerSync

/-- Where quotes come from. -/
inductive QuoteProvider where
  | rateApi
  | shippo
  | synthetic
  deriving DecidableEq, Repr, Inhabited

namespace QuoteProvider

open SyncM

def ofSettings (cfg : Settings) : QuoteProvider :=
  if cfg.rateShopping.apiUrl.isSome then rateApi
  else if cfg.shippo.apiKey.isSome then shippo
  else synthetic

def name : QuoteProvider → String
  | rateApi => "rate_api"
  | shippo => "shippo"
  | synthetic => "synthetic"

def postJson (who url : String) (headers : List (String × String)) (body : Json) : SyncM Json := do
  let headers := headers ++ [("content-type", "application/json")]
  match ← transmit (Client.request "POST" url headers body.render.toUTF8.toList) with
  | .error m => fail (.transport m)
  | .ok r =>
    if !(200 ≤ r.status && r.status < 300) then
      fail (.quoteProvider (who ++ " returned HTTP " ++ toString r.status ++ ": " ++ r.body))
    match Json.parse r.body with
    | .ok j => return j
    | .error e => fail (.quoteProvider (who ++ " body: " ++ e))

def textAt (j : Json) (k : String) : Option String :=
  match j.get? k with
  | some (.str s) => some s
  | _ => none

def rateApiQuote (cfg : RateShoppingSettings) (request : QuoteRequest) : SyncM FetchedQuote := do
  let some url := cfg.apiUrl | fail (.configuration "RATE_SHOPPING_API_URL not configured")
  let body := Json.object [("city", .str request.city), ("state", .str request.state),
    ("zip", .optStr request.zip), ("weightLbs", .ofBinary64 request.weightLbs),
    ("itemCount", .ofNat request.itemCount), ("currency", .str Rates.defaultCurrency)]
  let auth := match cfg.apiKey with
    | some key => [("authorization", "Bearer " ++ key)]
    | none => []
  let answer ← postJson "rate api" url auth body
  let some amount := ((answer.get? "amount").or (answer.get? "rate")).bind Fields.money? |
    fail (.quoteProvider "rate api response missing amount")
  return ⟨amount, textAt answer "currency", textAt answer "provider", answer⟩

def parcelWeight (w : Binary64) : Binary64 :=
  let least := Binary64.ofDecimal false 1 (-1)
  if w.isNaN || !least.le w then least else w

def cheapest (rates : List Json) : Option (Decimal × Json) :=
  rates.foldl (fun best rate =>
    match (rate.get? "amount").bind Fields.money? with
    | none => best
    | some a =>
      match best with
      | some (b, _) => if a.lt b then some (a, rate) else best
      | none => some (a, rate)) none

def shippoQuote (cfg : ShippoSettings) (request : QuoteRequest) : SyncM FetchedQuote := do
  let some key := cfg.apiKey | fail (.configuration "SHIPPO_API_KEY not configured")
  if cfg.mockMode then
    expect (Rates.syntheticQuote request.weightLbs request.itemCount "mock-shippo")
  else
    let body := Json.object [
      ("address_from", Json.object [("street1", .str "Approximate address"),
        ("city", .str cfg.fromCity), ("state", .str cfg.fromState), ("zip", .str cfg.fromPostal),
        ("country", .str cfg.fromCountry)]),
      ("address_to", Json.object [("street1", .str "Approximate address"),
        ("city", .str request.city), ("state", .str request.state), ("zip", .optStr request.zip),
        ("country", .str "US")]),
      ("parcels", .arr [Json.object [("weight", .ofBinary64 (parcelWeight request.weightLbs)),
        ("mass_unit", .str "lb"), ("length", .ofNat 10), ("width", .ofNat 8),
        ("height", .ofNat 4), ("distance_unit", .str "in")]]),
      ("async", .bool false)]
    let answer ← postJson "shippo" (dropTrailing '/' cfg.apiBase ++ "/shipments")
      [("authorization", "ShippoToken " ++ key)] body
    let rates := match answer.get? "rates" with
      | some (.arr xs) => xs
      | _ => []
    let some (amount, rate) := cheapest rates | fail (.quoteProvider "shippo returned no usable rates")
    return ⟨amount, textAt rate "currency", textAt rate "provider", answer⟩

/-- A fresh quote for the request. -/
def quote (p : QuoteProvider) (request : QuoteRequest) : SyncM FetchedQuote := do
  let cfg ← settings
  match p with
  | rateApi => rateApiQuote cfg.rateShopping request
  | shippo => shippoQuote cfg.shippo request
  | synthetic => expect (Rates.syntheticQuote request.weightLbs request.itemCount "synthetic")

end QuoteProvider

namespace QuoteCache

open SyncM

def tolerance : Binary64 := Binary64.ofDecimal false 25 (-2)

/-- The kept quote for a request, if any. -/
def lookup (request : QuoteRequest) : SyncM (Option CachedQuote) := do
  let (city, state, band) := request.key
  let at_ ← now
  return (← store).findQuote city state request.itemCount (band.sub tolerance) (band.add tolerance)
    at_

/-- The kept quote for a request, or a failure when there is none. -/
def cachedOnly (request : QuoteRequest) : SyncM CachedQuote := do
  match ← lookup request with
  | some q => return q
  | none => fail .noCachedQuote

def row (request : QuoteRequest) (fetched : FetchedQuote) (id : Uuid) (at_ expiresAt : Instant) :
    CachedQuote :=
  { id, cityLower := request.key.1, stateLower := request.key.2.1, weightBand := request.key.2.2,
    itemCount := request.itemCount, amount := fetched.amount,
    currency := fetched.currency.getD Rates.defaultCurrency, provider := fetched.provider,
    raw := fetched.raw, expiresAt := some expiresAt, updatedAt := at_ }

def keep (request : QuoteRequest) (fetched : FetchedQuote) : SyncM CachedQuote := do
  let at_ ← now
  let some expiresAt := at_.addSpan? (← read).quoteTtl | fail SyncError.instantOutOfRange
  let id ← freshId
  onStore (·.upsertQuote (row request fetched id at_ expiresAt))

/-- The kept quote for a request, or the one `fetch` gives, kept from now on; the flag says
whether `fetch` ran. -/
def getOrCreate (request : QuoteRequest) (fetch : SyncM FetchedQuote) :
    SyncM (CachedQuote × Bool) := do
  if let some hit ← lookup request then return (hit, false)
  let q ← keep request (← fetch)
  return (q, true)

end QuoteCache

end SellerSync
