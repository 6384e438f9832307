import SellerSync.Order.Incoming
/-! eBay order and inventory-item documents and the incoming records they become. An order's id is its
order id or its legacy one. -/
namespace SellerSync

namespace Ebay

structure AmountDoc where
  value : Option Decimal
  currency : Option String
  deriving Repr, Inhabited

def AmountDoc.decode : Decoder AmountDoc := Record.run "EbayAmount" 2 do
  pure {
    value := ← Record.dflt "value" Fields.looseMoney none
    currency := ← Record.opt "currency" Decode.string }

def amount (a : Option AmountDoc) : Option Decimal := a.bind (·.value)

def currency (a : Option AmountDoc) : Option String := a.bind fun x => Fields.optNonEmpty x.currency

/-- An address, its postal fields inline or under `contactAddress`. -/
inductive AddressDoc where
  | mk (firstName lastName phoneNumber addressLine1 addressLine2 city stateOrProvince county
      region postalCode countryCode : Option String) (contact : Option AddressDoc)
  deriving Repr, Inhabited

namespace AddressDoc

def firstName : AddressDoc → Option String | mk v .. => v
def lastName : AddressDoc → Option String | mk _ v .. => v
def phoneNumber : AddressDoc → Option String | mk _ _ v .. => v

/-- The postal address, taken from the innermost contact address. -/
def toAddress : AddressDoc → Address
  | mk _ _ _ _ _ _ _ _ _ _ _ (some inner) => toAddress inner
  | mk _ _ _ line1 line2 city state county region postal country none =>
    { line1 := Fields.optNonEmpty line1
      line2 := Fields.optNonEmpty line2
      city := Fields.optNonEmpty city
      region := ((Fields.optNonEmpty state).or (Fields.optNonEmpty county)).or
        (Fields.optNonEmpty region)
      postalCode := Fields.optNonEmpty postal
      country := Fields.optNonEmpty country }

def decodeDepth : Nat → Decoder AddressDoc
  | 0 => fun _ => .error (.custom "recursion limit exceeded")
  | depth + 1 => Record.run "EbayAddress" 12 do
    let f := fun (k : String) => Record.dflt k (Decode.option Decode.string) none
    let firstName ← f "firstName"
    let lastName ← f "lastName"
    let phoneNumber ← f "phoneNumber"
    let line1 ← f "addressLine1"
    let line2 ← f "addressLine2"
    let city ← f "city"
    let state ← f "stateOrProvince"
    let county ← f "county"
    let region ← f "region"
    let postal ← f "postalCode"
    let country ← f "countryCode"
    let contact ← Record.dflt "contactAddress" (Decode.option (decodeDepth depth)) none
    pure (mk firstName lastName phoneNumber line1 line2 city state county region postal country
      contact)

def decode : Decoder AddressDoc := decodeDepth 128

end AddressDoc

structure PricingDoc where
  subtotal : Option AmountDoc := none
  priceSubtotal : Option AmountDoc := none
  total : Option AmountDoc := none
  totalTax : Option AmountDoc := none
  /-- The shipping cost inside the delivery cost, when both are present. -/
  deliveryCost : Option (Option AmountDoc) := none
  discount : Option AmountDoc := none
  deriving Repr, Inhabited

def PricingDoc.decode : Decoder PricingDoc := Record.run "EbayPricingSummary" 6 do
  let amt := fun (k : String) => Record.dflt k (Decode.option AmountDoc.decode) none
  pure {
    subtotal := ← amt "subtotal"
    priceSubtotal := ← amt "priceSubtotal"
    total := ← amt "total"
    totalTax := ← amt "totalTax"
    deliveryCost := ← Record.dflt "deliveryCost"
      (Decode.option (Record.run "EbayDeliveryCost" 1 (amt "shippingCost"))) none
    discount := ← amt "discount" }

structure BuyerDoc where
  username : Option String
  email : Option String
  name : Option (Option String × Option String)
  taxAddress : Option AddressDoc
  registrationAddress : Option AddressDoc
  deriving Repr, Inhabited

def BuyerDoc.decode : Decoder BuyerDoc := Record.run "EbayBuyer" 5 do
  let s := fun (k : String) => Record.dflt k (Decode.option Decode.string) none
  pure {
    username := ← s "username"
    email := ← s "email"
    name := ← Record.dflt "name" (Decode.option (Record.run "EbayName" 2 do
      pure (← s "firstName", ← s "lastName"))) none
    taxAddress := ← Record.dflt "taxAddress" (Decode.option AddressDoc.decode) none
    registrationAddress := ← Record.dflt "registrationAddress"
      (Decode.option AddressDoc.decode) none }

def shippingStepDecode : Decoder (Option AddressDoc × Option AddressDoc) :=
  Record.run "EbayShippingStep" 2 do
    pure (← Record.dflt "shipTo" (Decode.option AddressDoc.decode) none,
      ← Record.dflt "shippingTo" (Decode.option AddressDoc.decode) none)

def instructionDecode : Decoder (Option (Option AddressDoc × Option AddressDoc)) :=
  Record.run "EbayFulfillmentInstruction" 1
    (Record.dflt "shippingStep" (Decode.option shippingStepDecode) none)

structure LineDoc where
  lineItemId : Option String
  legacyItemId : Option String
  sku : Option String
  legacySku : Option String
  title : Option String
  itemTitle : Option String
  quantity : Option Decimal
  lineItemCost : Option AmountDoc
  netPrice : Option AmountDoc
  originalPrice : Option AmountDoc
  totalTax : Option AmountDoc
  discountAmount : Option AmountDoc
  estimatedDeliveryCost : Option AmountDoc
  lineItemFulfillmentStatus : Option String
  lineItemStatus : Option String
  deriving Repr, Inhabited

def LineDoc.decode : Decoder LineDoc := Record.run "EbayLineItem" 15 do
  pure {
    lineItemId := ← Record.dflt "lineItemId" Fields.looseId none
    legacyItemId := ← Record.dflt "legacyItemId" Fields.looseId none
    sku := ← Record.opt "sku" Decode.string
    legacySku := ← Record.opt "legacySku" Decode.string
    title := ← Record.opt "title" Decode.string
    itemTitle := ← Record.opt "itemTitle" Decode.string
    quantity := ← Record.dflt "quantity" Fields.looseMoney none
    lineItemCost := ← Record.opt "lineItemCost" AmountDoc.decode
    netPrice := ← Record.opt "netPrice" AmountDoc.decode
    originalPrice := ← Record.opt "originalPrice" AmountDoc.decode
    totalTax := ← Record.opt "totalTax" AmountDoc.decode
    discountAmount := ← Record.opt "discountAmount" AmountDoc.decode
    estimatedDeliveryCost := ← Record.opt "estimatedDeliveryCost" AmountDoc.decode
    lineItemFulfillmentStatus := ← Record.opt "lineItemFulfillmentStatus" Decode.string
    lineItemStatus := ← Record.opt "lineItemStatus" Decode.string }

def LineDoc.toIncoming (l : LineDoc) : IncomingLine where
  externalLineId := l.lineItemId
  externalItemId := l.legacyItemId
  sku := (Fields.optNonEmpty l.sku).or (Fields.optNonEmpty l.legacySku)
  title := (Fields.optNonEmpty l.title).or (Fields.optNonEmpty l.itemTitle)
  quantity := Fields.quantity l.quantity
  price := ((amount l.lineItemCost).or (amount l.netPrice)).or (amount l.originalPrice)
  tax := amount l.totalTax
  discounts := amount l.discountAmount
  fulfillmentStatus :=
    (Fields.optNonEmpty l.lineItemFulfillmentStatus).or (Fields.optNonEmpty l.lineItemStatus)
  weightLbs := none
  shippingEstimate := amount l.estimatedDeliveryCost

structure OrderDoc where
  orderId : Option String
  legacyOrderId : Option String
  marketplaceId : Option String
  orderFulfillmentStatus : Option String
  orderPaymentStatus : Option String
  creationDate : Option String
  cancelledDate : Option String
  pricingSummary : PricingDoc
  buyer : Option BuyerDoc
  instructions : List (Option (Option AddressDoc × Option AddressDoc))
  lineItems : List LineDoc
  deriving Repr, Inhabited

def OrderDoc.decode : Decoder OrderDoc := Record.run "EbayOrder" 11 do
  pure {
    orderId := ← Record.dflt "orderId" Fields.looseId none
    legacyOrderId := ← Record.dflt "legacyOrderId" Fields.looseId none
    marketplaceId := ← Record.opt "marketplaceId" Decode.string
    orderFulfillmentStatus := ← Record.opt "orderFulfillmentStatus" Decode.string
    orderPaymentStatus := ← Record.opt "orderPaymentStatus" Decode.string
    creationDate := ← Record.opt "creationDate" Decode.string
    cancelledDate := ← Record.opt "cancelledDate" Decode.string
    pricingSummary := ← Record.dflt "pricingSummary"
      (fun j => match j with
        | .null => .ok {}
        | _ => PricingDoc.decode j) {}
    buyer := ← Record.opt "buyer" BuyerDoc.decode
    instructions := ← Record.dflt "fulfillmentStartInstructions"
      (Fields.nullableList instructionDecode) []
    lineItems := ← Record.dflt "lineItems" (Fields.nullableList LineDoc.decode) [] }

def OrderDoc.shipTo (o : OrderDoc) : Option AddressDoc :=
  let step := o.instructions.head?.bind id
  let fromStep := step.bind fun (shipTo, shippingTo) => shipTo.or shippingTo
  (fromStep.or (o.buyer.bind (·.taxAddress))).or (o.buyer.bind (·.registrationAddress))

def OrderDoc.buyerCustomer (o : OrderDoc) (b : BuyerDoc) (raw : Json) : IncomingCustomer :=
  let tax := b.taxAddress
  let externalId := Fields.optNonEmpty b.username
  let firstName := (tax.bind fun a => Fields.optNonEmpty a.firstName).or
    (b.name.bind fun n => Fields.optNonEmpty n.1)
  let lastName := ((tax.bind fun a => Fields.optNonEmpty a.lastName).or
    (b.name.bind fun n => Fields.optNonEmpty n.2)).or externalId
  { externalId
    email := Fields.email? b.email
    phone := tax.bind fun a => Fields.optNonEmpty a.phoneNumber
    firstName
    lastName
    address := (((tax.or b.registrationAddress).or o.shipTo).map AddressDoc.toAddress).filter
      (!·.isEmpty)
    raw := (raw.get? "buyer").getD .null }

def OrderDoc.translate (o : OrderDoc) (raw : Json) : Except SyncError IncomingOrder := do
  let some externalOrderId := o.orderId.or o.legacyOrderId
    | throw (.invalidPayload .ebay "order id missing")
  let p := o.pricingSummary
  let shippingCost := p.deliveryCost.bind id
  let currencyCode := (((currency p.total).or (currency p.priceSubtotal)).or
    (currency shippingCost)).or (currency p.subtotal)
  let status := ((Fields.optNonEmpty o.orderFulfillmentStatus).or
    (Fields.optNonEmpty o.orderPaymentStatus)).getD "open"
  pure {
    externalOrderId
    status
    currency := currencyCode
    totals := {
      subtotal := (amount p.subtotal).or (amount p.priceSubtotal)
      tax := amount p.totalTax
      shipping := amount shippingCost
      discounts := amount p.discount
      total := amount p.total }
    placedAt := Fields.timestamp? o.creationDate
    closedAt := Fields.timestamp? o.cancelledDate
    marketplaceId := Fields.optNonEmpty o.marketplaceId
    fulfillmentChannel := some "ebay"
    customer := o.buyer.map fun b => o.buyerCustomer b raw
    lines := o.lineItems.map LineDoc.toIncoming
    shipTo := (o.shipTo.map AddressDoc.toAddress).getD {}
    fulfillmentCost := (amount shippingCost).filter (!·.isZero)
    labelHint := false
    raw }

def translateOrder (j : Json) : Except SyncError IncomingOrder := do
  let o ← (OrderDoc.decode j).mapError fun e => .invalidPayload .ebay e.message
  o.translate j

structure ItemDoc where
  sku : Option String
  title : Option String
  productTitle : Option (Option String)
  availability : Option (Option (Option Decimal))
  deriving Repr, Inhabited

def ItemDoc.decode : Decoder ItemDoc := Record.run "EbayInventoryItem" 4 do
  pure {
    sku := ← Record.opt "sku" Decode.string
    title := ← Record.opt "title" Decode.string
    productTitle := ← Record.opt "product"
      (Record.run "EbayInventoryProduct" 1 (Record.opt "title" Decode.string))
    availability := ← Record.opt "availability"
      (Record.run "EbayAvailability" 1 (Record.opt "shipToLocationAvailability"
        (Record.run "EbayShipToAvailability" 1
          (Record.dflt "quantity" Fields.looseMoney none)))) }

/-- Inventory items carry their SKU; there is no variant layer. -/
def translateItem (j : Json) : Except SyncError IncomingStock := do
  let i ← (ItemDoc.decode j).mapError fun e => .invalidPayload .ebay e.message
  let some sku := Fields.optNonEmpty i.sku
    | throw (.invalidPayload .ebay "inventory item sku missing")
  let title := (i.productTitle.bind fun t => Fields.optNonEmpty t).or (Fields.optNonEmpty i.title)
  let available : Option Int :=
    match i.availability with
    | some (some (some q)) => some (Fields.quantity (some q))
    | _ => none
  pure { externalVariantId := none, sku := some sku, title, locationId := none, available,
         raw := j }

end Ebay

end SellerSync
