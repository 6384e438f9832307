import SellerSync.Json.Value
import SellerSync.Uuid
import SellerSync.Time.Instant
/-!
Inbound shipments: stock a seller sends into the marketplace's warehouses, kept per account and
shipment id together with the box labels fetched for them.
-/
namespace SellerSync

structure InboundItem where
  sellerSku : String
  quantityShipped : Nat
  quantityInCase : Option Nat
  prepDetails : Option Json
  deriving Repr, Inhabited

structure InboundLabels where
  url : Option String
  pageType : String
  labelType : Option String
  fetchedAt : Instant
  deriving Repr, Inhabited

structure InboundShipment where
  id : Uuid
  sellerId : Uuid
  accountId : Uuid
  marketplaceId : Option String
  shipmentId : String
  destinationCenterId : String
  labelPrepPreference : String
  shipmentName : String
  items : List InboundItem
  labels : Option InboundLabels
  rawShipment : Json
  createdAt : Instant
  updatedAt : Instant
  deriving Repr, Inhabited

end SellerSync
