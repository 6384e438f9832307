import SellerSync.Session.Basic
/-! Session operations on shipping-rate quotes. -/
namespace SellerSync

namespace SessionOps

open SessionM

def quoteRequest (req : Json) : SessionM QuoteRequest := do
  match QuoteRequest.decode (Field.get req "request") with
  | .ok r => return r
  | .error e => throw (.decode e.message)

def fetcher (request : QuoteRequest) (spec : Json) : SessionM (SyncM FetchedQuote) := do
  match spec with
  | .str "provider" => return (QuoteProvider.ofSettings (← read).settings).quote request
  | .obj _ =>
    match spec.get? "error" with
    | some (.str reason) => return SyncM.fail (.quoteProvider reason)
    | some _ => bad "fetch.error must be a string"
    | none =>
      let amount := ((spec.get? "amount").bind Fields.money?).getD Decimal.zero
      let text := fun (k : String) => match spec.get? k with
        | some (.str s) => some s
        | _ => none
      return pure ⟨amount, text "currency", text "provider", (spec.get? "raw").getD .null⟩
  | _ => bad "fetch must be an object or \"provider\""

def quote (req : Json) : SessionM Json := do
  let request ← quoteRequest req
  let fetch ← fetcher request (Field.get req "fetch")
  let (q, fetched) ← sync (QuoteCache.getOrCreate request fetch)
  match View.quote (← origin) q with
  | .obj fs => return Json.object (fs ++ [("fetched", .bool fetched)])
  | j => return j

def providerQuote (req : Json) : SessionM Json := do
  let request ← quoteRequest req
  let provider := QuoteProvider.ofSettings (← read).settings
  let q ← sync (provider.quote request)
  return Json.object [("provider_name", .str provider.name), ("quote", View.fetchedQuote q)]

def cachedQuote (req : Json) : SessionM Json := do
  let request ← quoteRequest req
  return View.quote (← origin) (← sync (QuoteCache.cachedOnly request))

def quoteCount : SessionM Json := do
  return Json.object [("value", .ofNat (← store).quotes.length)]

end SessionOps

end SellerSync
