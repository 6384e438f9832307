import SellerSync.Order.Quality
import SellerSync.Marketplace
import SellerSync.Uuid
/-! What the store keeps of orders: the order, its lines, one audit line per order and SKU, shipping
labels and stock levels. -/
namespace SellerSync

/-- How a record reached the store: pulled by a sync, or pushed by a webhook. -/
inductive IngestSource where
  | poll
  | webhook
  deriving DecidableEq, Repr, Inhabited

def IngestSource.name : IngestSource → String
  | poll => "poll"
  | webhook => "webhook"

structure StoredOrder where
  id : Uuid
  sellerId : Uuid
  accountId : Uuid
  marketplace : Marketplace
  marketplaceId : Option String
  fulfillmentChannel : Option String
  source : IngestSource
  externalOrderId : String
  status : String
  currency : Option String
  totals : OrderTotals
  customerId : Option Uuid
  placedAt : Option Instant
  closedAt : Option Instant
  raw : Json
  syncedAt : Instant
  deriving Repr, Inhabited

structure StoredLine where
  id : Uuid
  orderId : Uuid
  externalLineId : Option String
  itemId : Option Uuid
  sku : Option String
  title : Option String
  quantity : Int
  price : Option Decimal
  tax : Option Decimal
  discounts : Option Decimal
  fulfillmentStatus : Option String
  deriving Repr, Inhabited

/-- A cost-annotated projection of an order line, keyed by seller, order id and SKU. -/
structure AuditLine where
  id : Uuid
  sellerId : Uuid
  accountId : Uuid
  marketplace : Marketplace
  marketplaceId : Option String
  fulfillmentChannel : Option String
  source : IngestSource
  orderId : Uuid
  orderExternalId : String
  orderDate : Option Instant
  sku : Option String
  itemName : Option String
  quantity : Int
  weightLbs : Option Binary64
  itemCount : Int
  shipTo : Address
  costs : LineCosts
  prepFeeRequired : Bool
  status : QualityStatus
  reasons : List QualityReason
  originalCostTotal : Option Decimal
  updatedAt : Instant
  deriving Repr, Inhabited

structure ShippingLabel where
  id : Uuid
  sellerId : Uuid
  accountId : Uuid
  marketplace : Marketplace
  orderId : Option Uuid
  shipmentId : String
  labelFormat : Option String
  downloadUrl : Option String
  document : Option String
  mimeType : Option String
  expiresAt : Option Instant
  raw : Json
  deriving Repr, Inhabited

/-- Label data from a shipping provider, before it is tied to an account. -/
structure LabelInput where
  orderId : Option Uuid := none
  shipmentId : String
  labelFormat : Option String := none
  downloadUrl : Option String := none
  document : Option String := none
  mimeType : Option String := none
  expiresAt : Option Instant := none
  raw : Json := .null
  deriving Repr, Inhabited

structure StockLevel where
  id : Uuid
  itemId : Uuid
  accountId : Uuid
  locationId : Option String
  available : Int
  updatedAt : Instant
  deriving Repr, Inhabited

end SellerSync
