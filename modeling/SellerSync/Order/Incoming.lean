import SellerSync.Order.Fields
/-! Marketplace documents translated into one shape: an incoming order with its lines, customer and
ship-to address, an incoming product with its variants, and an incoming stock level. -/
namespace SellerSync

structure Address where
  line1 : Option String := none
  line2 : Option String := none
  city : Option String := none
  region : Option String := none
  postalCode : Option String := none
  country : Option String := none
  deriving DecidableEq, Repr, Inhabited

namespace Address

def filled (v : Option String) : Bool :=
  match v with
  | some s => !(Text.trim s).isEmpty
  | none => false

def isDeliverable (a : Address) : Bool := filled a.city && filled a.region && filled a.postalCode

def isEmpty (a : Address) : Bool :=
  !(filled a.line1 || filled a.line2 || filled a.city || filled a.region || filled a.postalCode ||
    filled a.country)

end Address

structure OrderTotals where
  subtotal : Option Decimal := none
  tax : Option Decimal := none
  shipping : Option Decimal := none
  discounts : Option Decimal := none
  total : Option Decimal := none
  deriving DecidableEq, Repr, Inhabited

structure IncomingLine where
  externalLineId : Option String := none
  /-- Listing id that resolves the item mapping. -/
  externalItemId : Option String := none
  sku : Option String := none
  title : Option String := none
  quantity : Int := 0
  price : Option Decimal := none
  tax : Option Decimal := none
  discounts : Option Decimal := none
  fulfillmentStatus : Option String := none
  weightLbs : Option Binary64 := none
  /-- Line-level shipping estimate, used when the order carries none. -/
  shippingEstimate : Option Decimal := none
  deriving Repr, Inhabited

structure IncomingCustomer where
  externalId : Option String := none
  email : Option String := none
  phone : Option String := none
  firstName : Option String := none
  lastName : Option String := none
  address : Option Address := none
  raw : Json := .null
  deriving Repr, Inhabited

structure IncomingOrder where
  externalOrderId : String
  status : String
  currency : Option String
  totals : OrderTotals
  placedAt : Option Instant
  closedAt : Option Instant
  marketplaceId : Option String
  fulfillmentChannel : Option String
  customer : Option IncomingCustomer
  lines : List IncomingLine
  shipTo : Address
  /-- Shipping charged on the order, the fulfillment cost of its audit lines. -/
  fulfillmentCost : Option Decimal
  /-- The document itself shows that shipping was bought. -/
  labelHint : Bool
  raw : Json
  deriving Repr, Inhabited

structure IncomingVariant where
  externalVariantId : Option String
  inventoryItemId : Option String
  sku : Option String
  title : String
  raw : Json
  deriving Repr, Inhabited

structure IncomingProduct where
  externalItemId : String
  title : String
  active : Bool
  variants : List IncomingVariant
  deriving Repr, Inhabited

/-- One stock observation: it resolves through an existing mapping by variant id, or carries the
SKU that creates one. -/
structure IncomingStock where
  externalVariantId : Option String
  sku : Option String
  title : Option String
  locationId : Option String
  available : Option Int
  raw : Json
  deriving Repr, Inhabited

end SellerSync
