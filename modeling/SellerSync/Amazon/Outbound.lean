import SellerSync.Amazon.Requests
import SellerSync.Api.Executor
import SellerSync.Web.Percent
/-! Stock and orders sent to Amazon. Publishing stock replaces the default fulfillment availability of
each SKU, at no less than zero, in the update's marketplaces or else the account's. -/
namespace SellerSync

/-- Which SKUs were published and which were skipped. -/
structure PushReport where
  pushed : List String := []
  skipped : List String := []
  deriving Repr, Inhabited

namespace Amazon

open SyncM

/-- The seller id of an Amazon account. -/
def sellingPartnerId (account : ChannelAccount) : Except SyncError String :=
  match account.externalId with
  | some id => if id.isEmpty then .error (noPartner account) else .ok id
  | none => .error (noPartner account)
where
  noPartner (account : ChannelAccount) : SyncError :=
    .configuration ("amazon account " ++ account.id.toText ++ " has no selling partner id")

def availabilityPatch (quantity : Int) : Json :=
  Json.object [("productType", .str "PRODUCT"), ("patches", .arr [Json.object [
    ("op", .str "replace"), ("path", .str "/attributes/fulfillment_availability"),
    ("value", .arr [Json.object [("fulfillment_channel_code", .str "DEFAULT"),
      ("quantity", .ofInt (max quantity 0))]])]])]

/-- Publishes stock levels. -/
def pushInventory (account : ChannelAccount) (updates : List InventoryUpdate) :
    SyncM PushReport := do
  if !account.flags.inventoryOut then
    return { skipped := updates.map (·.sku) }
  let sellerId ← expect (sellingPartnerId account)
  let mut report : PushReport := {}
  for update in updates do
    let sku := Text.trim update.sku
    if sku.isEmpty then
      report := { report with skipped := report.skipped ++ [update.sku] }
      continue
    let marketplaces := if update.marketplaceIds.isEmpty then account.marketplaceIds
      else update.marketplaceIds
    if marketplaces.isEmpty then
      report := { report with skipped := report.skipped ++ [sku] }
      continue
    let path := "/listings/2021-08-01/items/" ++ Percent.encodeComponent sellerId ++ "/" ++
      Percent.encodeComponent sku
    let req := (ApiRequest.patch path (availabilityPatch update.quantity)).withQuery
      "marketplaceIds" (",".intercalate marketplaces)
    let _ ← Executor.execute account req
    report := { report with pushed := report.pushed ++ [sku] }
  return report

/-- Creates a multi-channel fulfillment order. -/
def createFulfillmentOrder (account : ChannelAccount) (request : FulfillmentOrderRequest) :
    SyncM ResponseBody := do
  if !account.flags.fulfillmentOut then
    fail (.configuration ("fulfillment is disabled for account " ++ account.id.toText))
  if (Text.trim request.sellerFulfillmentOrderId).isEmpty then
    fail (.configuration "sellerFulfillmentOrderId is required")
  if request.items.isEmpty then
    fail (.configuration "fulfillment order has no items")
  let at_ ← if request.displayableOrderDateTime.isSome then pure Instant.epoch else now
  Executor.execute account (ApiRequest.post "/fba/outbound/2020-07-01/fulfillmentOrders"
    (request.body account.marketplaceIds.head? at_))

end Amazon

end SellerSync
