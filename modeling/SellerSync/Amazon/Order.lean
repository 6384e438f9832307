import SellerSync.Order.Incoming
/-! Amazon orders and their items, fetched separately and translated together. -/
namespace SellerSync

namespace Amazon

structure MoneyDoc where
  currencyCode : Option String
  amount : Option Decimal
  deriving Repr, Inhabited

def MoneyDoc.decode : Decoder MoneyDoc := Record.run "AmazonMoney" 2 do
  pure {
    currencyCode := ← Record.opt "CurrencyCode" Decode.string
    amount := ← Record.dflt "Amount" Fields.looseMoney none }

def amount (m : Option MoneyDoc) : Option Decimal := m.bind (·.amount)

structure AddressDoc where
  addressLine1 : Option String := none
  addressLine2 : Option String := none
  city : Option String := none
  stateOrRegion : Option String := none
  postalCode : Option String := none
  countryCode : Option String := none
  phone : Option String := none
  deriving Repr, Inhabited

def AddressDoc.decode : Decoder AddressDoc := Record.run "AmazonAddress" 7 do
  pure {
    addressLine1 := ← Record.opt "AddressLine1" Decode.string
    addressLine2 := ← Record.opt "AddressLine2" Decode.string
    city := ← Record.opt "City" Decode.string
    stateOrRegion := ← Record.opt "StateOrRegion" Decode.string
    postalCode := ← Record.opt "PostalCode" Decode.string
    countryCode := ← Record.opt "CountryCode" Decode.string
    phone := ← Record.opt "Phone" Decode.string }

def AddressDoc.toAddress (a : AddressDoc) : Address where
  line1 := Fields.optNonEmpty a.addressLine1
  line2 := Fields.optNonEmpty a.addressLine2
  city := Fields.optNonEmpty a.city
  region := Fields.optNonEmpty a.stateOrRegion
  postalCode := Fields.optNonEmpty a.postalCode
  country := Fields.optNonEmpty a.countryCode

structure BuyerDoc where
  buyerEmail : Option String := none
  buyerName : Option String := none
  buyerId : Option String := none
  deriving Repr, Inhabited

def BuyerDoc.decode : Decoder BuyerDoc := Record.run "AmazonBuyerInfo" 3 do
  pure {
    buyerEmail := ← Record.opt "BuyerEmail" Decode.string
    buyerName := ← Record.opt "BuyerName" Decode.string
    buyerId := ← Record.opt "BuyerId" Decode.string }

structure OrderDoc where
  amazonOrderId : Option String
  orderStatus : Option String
  purchaseDate : Option String
  latestDeliveryDate : Option String
  fulfillmentChannel : Option String
  marketplaceId : Option String
  orderTotal : Option MoneyDoc
  shippingPrice : Option MoneyDoc
  tax : Option MoneyDoc
  promotionDiscount : Option MoneyDoc
  buyerInfo : Option BuyerDoc
  shippingAddress : Option AddressDoc
  deriving Repr, Inhabited

def OrderDoc.decode : Decoder OrderDoc := Record.run "AmazonOrder" 12 do
  pure {
    amazonOrderId := ← Record.opt "AmazonOrderId" Decode.string
    orderStatus := ← Record.opt "OrderStatus" Decode.string
    purchaseDate := ← Record.opt "PurchaseDate" Decode.string
    latestDeliveryDate := ← Record.opt "LatestDeliveryDate" Decode.string
    fulfillmentChannel := ← Record.opt "FulfillmentChannel" Decode.string
    marketplaceId := ← Record.opt "MarketplaceId" Decode.string
    orderTotal := ← Record.opt "OrderTotal" MoneyDoc.decode
    shippingPrice := ← Record.opt "ShippingPrice" MoneyDoc.decode
    tax := ← Record.opt "Tax" MoneyDoc.decode
    promotionDiscount := ← Record.opt "PromotionDiscount" MoneyDoc.decode
    buyerInfo := ← Record.opt "BuyerInfo" BuyerDoc.decode
    shippingAddress := ← Record.opt "ShippingAddress" AddressDoc.decode }

structure ItemDoc where
  orderItemId : Option String
  sellerSku : Option String
  asin : Option String
  title : Option String
  quantityOrdered : Option Decimal
  itemPrice : Option MoneyDoc
  itemTax : Option MoneyDoc
  promotionDiscount : Option MoneyDoc
  shipmentStatus : Option String
  /-- Weight value and unit. -/
  packageWeight : Option (Option Decimal × Option String)
  deriving Repr, Inhabited

def ItemDoc.decode : Decoder ItemDoc := Record.run "AmazonOrderItem" 10 do
  pure {
    orderItemId := ← Record.opt "OrderItemId" Decode.string
    sellerSku := ← Record.opt "SellerSKU" Decode.string
    asin := ← Record.opt "ASIN" Decode.string
    title := ← Record.opt "Title" Decode.string
    quantityOrdered := ← Record.dflt "QuantityOrdered" Fields.looseMoney none
    itemPrice := ← Record.opt "ItemPrice" MoneyDoc.decode
    itemTax := ← Record.opt "ItemTax" MoneyDoc.decode
    promotionDiscount := ← Record.opt "PromotionDiscount" MoneyDoc.decode
    shipmentStatus := ← Record.opt "ShipmentStatus" Decode.string
    packageWeight := ← Record.opt "PackageWeight" (Record.run "AmazonWeight" 2 do
      pure (← Record.dflt "Value" Fields.looseMoney none, ← Record.opt "Unit" Decode.string)) }

/-- An order with the items fetched for it; `raw` is the order document. -/
structure Bundle where
  order : OrderDoc
  items : List ItemDoc
  raw : Json
  deriving Repr, Inhabited

def decodeError (e : DecodeError) : SyncError := .invalidPayload .amazon e.message

/-- Decodes the order, then each item in turn. -/
def Bundle.read (order : Json) (items : List Json) : Except SyncError Bundle := do
  let o ← (OrderDoc.decode order).mapError decodeError
  let is ← items.mapM fun i => (ItemDoc.decode i).mapError decodeError
  pure ⟨o, is, order⟩

def words (s : String) : List String :=
  (s.toList.splitBy (fun a b => Text.isBlank a == Text.isBlank b)).filterMap fun w =>
    if w.all Text.isBlank then none else some (String.ofList w)

def Bundle.customer (b : Bundle) : IncomingCustomer :=
  let buyer := b.order.buyerInfo.getD {}
  let address := b.order.shippingAddress.getD {}
  let (firstName, lastName) :=
    match Fields.optNonEmpty buyer.buyerName with
    | some name =>
      match words name with
      | first :: rest => (some first, if rest.isEmpty then none else some (" ".intercalate rest))
      | [] => (none, none)
    | none => (none, none)
  { externalId := (Fields.optNonEmpty buyer.buyerId).or (Fields.optNonEmpty b.order.amazonOrderId)
    email := Fields.email? buyer.buyerEmail
    phone := Fields.optNonEmpty address.phone
    firstName
    lastName
    address := (some address.toAddress).filter (!·.isEmpty)
    raw := (b.raw.get? "BuyerInfo").getD .null }

def ItemDoc.toIncoming (status : String) (i : ItemDoc) : IncomingLine where
  externalLineId := Fields.optNonEmpty i.orderItemId
  externalItemId := Fields.optNonEmpty i.asin
  sku := Fields.optNonEmpty i.sellerSku
  title := Fields.optNonEmpty i.title
  quantity := Fields.quantity i.quantityOrdered
  price := amount i.itemPrice
  tax := amount i.itemTax
  discounts := amount i.promotionDiscount
  fulfillmentStatus := (Fields.optNonEmpty i.shipmentStatus).or (some status)
  weightLbs := i.packageWeight.bind fun (value, unit) =>
    if unit == some "LB" then value.map (·.toBinary64) else none
  shippingEstimate := none

def Bundle.translate (b : Bundle) : Except SyncError IncomingOrder := do
  let o := b.order
  let some externalOrderId := Fields.optNonEmpty o.amazonOrderId
    | throw (.invalidPayload .amazon "AmazonOrderId missing")
  let status := (Fields.optNonEmpty o.orderStatus).getD "Pending"
  pure {
    externalOrderId
    status
    currency := o.orderTotal.bind fun m => Fields.optNonEmpty m.currencyCode
    totals := {
      subtotal := none
      tax := amount o.tax
      shipping := amount o.shippingPrice
      discounts := amount o.promotionDiscount
      total := amount o.orderTotal }
    placedAt := Fields.timestamp? o.purchaseDate
    closedAt := Fields.timestamp? o.latestDeliveryDate
    marketplaceId := Fields.optNonEmpty o.marketplaceId
    fulfillmentChannel := Fields.optNonEmpty o.fulfillmentChannel
    customer := some b.customer
    lines := b.items.map (ItemDoc.toIncoming status)
    shipTo := (o.shippingAddress.map AddressDoc.toAddress).getD {}
    fulfillmentCost := (amount o.shippingPrice).filter (!·.isZero)
    labelHint := false
    raw := b.raw }

def translateOrder (order : Json) (items : List Json) : Except SyncError IncomingOrder := do
  (← Bundle.read order items).translate

end Amazon

end SellerSync
