import SellerSync.Order.Incoming
/-! Shopify order, product and inventory-level documents and the incoming records they become. -/
namespace SellerSync

namespace Shopify

structure AddressDoc where
  address1 : Option String
  address2 : Option String
  city : Option String
  province : Option String
  provinceCode : Option String
  zip : Option String
  country : Option String
  countryCode : Option String
  deriving Repr, Inhabited

def AddressDoc.decode : Decoder AddressDoc := Record.run "ShopifyAddress" 8 do
  pure {
    address1 := ← Record.opt "address1" Decode.string
    address2 := ← Record.opt "address2" Decode.string
    city := ← Record.opt "city" Decode.string
    province := ← Record.opt "province" Decode.string
    provinceCode := ← Record.opt "province_code" Decode.string
    zip := ← Record.opt "zip" Decode.string
    country := ← Record.opt "country" Decode.string
    countryCode := ← Record.opt "country_code" Decode.string }

/-- Region falls back from province to its code; country prefers the code. -/
def AddressDoc.toAddress (a : AddressDoc) : Address where
  line1 := Fields.optNonEmpty a.address1
  line2 := Fields.optNonEmpty a.address2
  city := Fields.optNonEmpty a.city
  region := (Fields.optNonEmpty a.province).or (Fields.optNonEmpty a.provinceCode)
  postalCode := Fields.optNonEmpty a.zip
  country := (Fields.optNonEmpty a.countryCode).or (Fields.optNonEmpty a.country)

structure CustomerDoc where
  id : Option String
  email : Option String
  phone : Option String
  firstName : Option String
  lastName : Option String
  defaultAddress : Option AddressDoc
  deriving Repr, Inhabited

def CustomerDoc.decode : Decoder CustomerDoc := Record.run "ShopifyCustomer" 6 do
  pure {
    id := ← Record.dflt "id" Fields.looseId none
    email := ← Record.opt "email" Decode.string
    phone := ← Record.opt "phone" Decode.string
    firstName := ← Record.opt "first_name" Decode.string
    lastName := ← Record.opt "last_name" Decode.string
    defaultAddress := ← Record.opt "default_address" AddressDoc.decode }

def CustomerDoc.toIncoming (c : CustomerDoc) : IncomingCustomer where
  externalId := c.id
  email := Fields.email? c.email
  phone := Fields.optNonEmpty c.phone
  firstName := Fields.optNonEmpty c.firstName
  lastName := Fields.optNonEmpty c.lastName
  address := (c.defaultAddress.map AddressDoc.toAddress).filter (!·.isEmpty)
  raw := Json.object [("id", Json.optStr c.id), ("email", Json.optStr c.email),
    ("phone", Json.optStr c.phone)]

structure LineDoc where
  id : Option String
  variantId : Option String
  sku : Option String
  name : Option String
  title : Option String
  quantity : Option Decimal
  price : Option Decimal
  totalTax : Option Decimal
  totalDiscount : Option Decimal
  fulfillmentStatus : Option String
  grams : Option Decimal
  deriving Repr, Inhabited

def LineDoc.decode : Decoder LineDoc := Record.run "ShopifyLineItem" 11 do
  pure {
    id := ← Record.dflt "id" Fields.looseId none
    variantId := ← Record.dflt "variant_id" Fields.looseId none
    sku := ← Record.opt "sku" Decode.string
    name := ← Record.opt "name" Decode.string
    title := ← Record.opt "title" Decode.string
    quantity := ← Record.dflt "quantity" Fields.looseMoney none
    price := ← Record.dflt "price" Fields.looseMoney none
    totalTax := ← Record.dflt "total_tax" Fields.looseMoney none
    totalDiscount := ← Record.dflt "total_discount" Fields.looseMoney none
    fulfillmentStatus := ← Record.opt "fulfillment_status" Decode.string
    grams := ← Record.dflt "grams" Fields.looseMoney none }

def gramsPerPound : Binary64 := Binary64.ofDecimal false 453592 (-3)

def LineDoc.toIncoming (l : LineDoc) : IncomingLine where
  externalLineId := l.id
  externalItemId := l.variantId
  sku := Fields.optNonEmpty l.sku
  title := (Fields.optNonEmpty l.name).or (Fields.optNonEmpty l.title)
  quantity := Fields.quantity l.quantity
  price := l.price
  tax := l.totalTax
  discounts := l.totalDiscount.filter (!·.isZero)
  fulfillmentStatus := Fields.optNonEmpty l.fulfillmentStatus
  weightLbs := l.grams.map fun g =>
    Binary64.ofFloat (g.toBinary64.toFloat / gramsPerPound.toFloat)
  shippingEstimate := none

def amountDoc (recordName field : String) : Decoder (Option Decimal) :=
  Record.run recordName 1 (Record.dflt field Fields.looseMoney none)

structure OrderDoc where
  id : Option String
  currency : Option String
  financialStatus : Option String
  subtotalPrice : Option Decimal
  totalTax : Option Decimal
  totalPrice : Option Decimal
  shippingLines : List (Option Decimal)
  discountApplications : List (Option Decimal)
  /-- The shop-money amount of the total shipping price set, when both levels are present. -/
  shippingPriceSet : Option (Option (Option Decimal))
  createdAt : Option String
  closedAt : Option String
  customer : Option CustomerDoc
  shippingAddress : Option AddressDoc
  lineItems : List LineDoc
  deriving Repr, Inhabited

def OrderDoc.decode : Decoder OrderDoc := Record.run "ShopifyOrder" 14 do
  pure {
    id := ← Record.dflt "id" Fields.looseId none
    currency := ← Record.opt "currency" Decode.string
    financialStatus := ← Record.opt "financial_status" Decode.string
    subtotalPrice := ← Record.dflt "subtotal_price" Fields.looseMoney none
    totalTax := ← Record.dflt "total_tax" Fields.looseMoney none
    totalPrice := ← Record.dflt "total_price" Fields.looseMoney none
    shippingLines := ← Record.dflt "shipping_lines"
      (Fields.nullableList (amountDoc "ShopifyShippingLine" "price")) []
    discountApplications := ← Record.dflt "discount_applications"
      (Fields.nullableList (amountDoc "ShopifyDiscount" "value")) []
    shippingPriceSet := ← Record.opt "total_shipping_price_set"
      (Record.run "ShopifyPriceSet" 1
        (Record.opt "shop_money" (amountDoc "ShopifyMoney" "amount")))
    createdAt := ← Record.opt "created_at" Decode.string
    closedAt := ← Record.opt "closed_at" Decode.string
    customer := ← Record.opt "customer" CustomerDoc.decode
    shippingAddress := ← Record.opt "shipping_address" AddressDoc.decode
    lineItems := ← Record.dflt "line_items" (Fields.nullableList LineDoc.decode) [] }

/-- Decodes an order document, keeping the document as its raw form. -/
def OrderDoc.read (j : Json) : Except SyncError OrderDoc :=
  (OrderDoc.decode j).mapError fun e => .invalidPayload .shopify e.message

def OrderDoc.translate (o : OrderDoc) (raw : Json) : Except SyncError IncomingOrder := do
  let some externalOrderId := o.id
    | throw (.invalidPayload .shopify "order id missing")
  let shippingTotal ← Fields.sumKnown o.shippingLines
  let discountTotal ← Fields.sumKnown o.discountApplications
  let shopShipping : Option Decimal :=
    match o.shippingPriceSet with
    | some (some amount) => amount
    | _ => none
  pure {
    externalOrderId
    status := (Fields.optNonEmpty o.financialStatus).getD "open"
    currency := Fields.optNonEmpty o.currency
    totals := {
      subtotal := o.subtotalPrice
      tax := o.totalTax
      shipping := some (shippingTotal.getD Decimal.zero)
      discounts := some (discountTotal.getD Decimal.zero)
      total := o.totalPrice }
    placedAt := Fields.timestamp? o.createdAt
    closedAt := Fields.timestamp? o.closedAt
    marketplaceId := none
    fulfillmentChannel := some "shopify"
    customer := o.customer.map CustomerDoc.toIncoming
    lines := o.lineItems.map LineDoc.toIncoming
    shipTo := (o.shippingAddress.map AddressDoc.toAddress).getD {}
    fulfillmentCost := [shopShipping, shippingTotal].findSome? fun a => a.filter (!·.isZero)
    labelHint := !o.shippingLines.isEmpty
    raw }

/-- Translates an order document. -/
def translateOrder (j : Json) : Except SyncError IncomingOrder := do
  let o ← OrderDoc.read j
  o.translate j

structure VariantDoc where
  id : Option String
  sku : Option String
  title : Option String
  inventoryItemId : Option String
  deriving Repr, Inhabited

def VariantDoc.decode : Decoder VariantDoc := Record.run "ShopifyVariant" 4 do
  pure {
    id := ← Record.dflt "id" Fields.looseId none
    sku := ← Record.opt "sku" Decode.string
    title := ← Record.opt "title" Decode.string
    inventoryItemId := ← Record.dflt "inventory_item_id" Fields.looseId none }

structure ProductDoc where
  id : Option String
  title : Option String
  status : Option String
  variants : List Json
  deriving Repr, Inhabited

def ProductDoc.decode : Decoder ProductDoc := Record.run "ShopifyProduct" 4 do
  pure {
    id := ← Record.dflt "id" Fields.looseId none
    title := ← Record.opt "title" Decode.string
    status := ← Record.opt "status" Decode.string
    variants := ← Record.dflt "variants" (Fields.nullableList Decode.any) [] }

def translateVariant (productTitle : String) (raw : Json) : IncomingVariant :=
  let v := (VariantDoc.decode raw).toOption.getD ⟨none, none, none, none⟩
  let sku := Fields.optNonEmpty v.sku
  let title :=
    match Fields.optNonEmpty v.title with
    | some suffix => if productTitle.isEmpty then suffix else productTitle ++ " - " ++ suffix
    | none => if productTitle.isEmpty then sku.getD "" else productTitle
  { externalVariantId := v.id, inventoryItemId := v.inventoryItemId, sku, title, raw }

def translateProduct (j : Json) : Except SyncError IncomingProduct := do
  let p ← (ProductDoc.decode j).mapError fun e => .invalidPayload .shopify e.message
  let some externalItemId := p.id
    | throw (.invalidPayload .shopify "product id missing")
  let title := (Fields.optNonEmpty p.title).getD ""
  pure {
    externalItemId
    title
    active := p.status == some "active"
    variants := p.variants.map (translateVariant title) }

structure LevelDoc where
  inventoryItemId : Option String
  locationId : Option String
  available : Option Decimal
  deriving Repr, Inhabited

def LevelDoc.decode : Decoder LevelDoc := Record.run "ShopifyInventoryLevel" 3 do
  pure {
    inventoryItemId := ← Record.dflt "inventory_item_id" Fields.looseId none
    locationId := ← Record.dflt "location_id" Fields.looseId none
    available := ← Record.dflt "available" Fields.looseMoney none }

def translateLevel (j : Json) : Except SyncError IncomingStock := do
  let l ← (LevelDoc.decode j).mapError fun e => .invalidPayload .shopify e.message
  let some variant := l.inventoryItemId
    | throw (.invalidPayload .shopify "inventory_item_id missing")
  pure {
    externalVariantId := some variant
    sku := none
    title := none
    locationId := l.locationId
    available := some (Fields.quantity l.available)
    raw := j }

end Shopify

end SellerSync
