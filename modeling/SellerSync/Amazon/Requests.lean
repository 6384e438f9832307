import SellerSync.Json.Decode
import SellerSync.Json.Scalars
import SellerSync.Number.DecimalArith
import SellerSync.Time.Relaxed
import SellerSync.Uuid
/-! What a seller asks of Amazon's outbound, shipping and inbound services, read from JSON the way
those services name their fields, and written back as the bodies they expect. -/
namespace SellerSync

namespace Decode

def decimalNumber : Decoder Decimal
  | .num (.unsigned n) =>
    match Decimal.ofScaled false n 0 with
    | some d => .ok d
    | none => .error (.invalidValue (.unsigned n) "a Decimal type representing a fixed-point number")
  | .num (.signed n) =>
    match Decimal.ofScaled true n.natAbs 0 with
    | some d => .ok d
    | none => .error (.invalidValue (.signed n) "a Decimal type representing a fixed-point number")
  | .num (.float x) =>
    match Decimal.ofBinary64Short? x with
    | some d => .ok d
    | none => .error (.invalidValue (.float x) "a Decimal type representing a fixed-point number")
  | .str s =>
    match Decimal.parse? s <|> Decimal.parseScientific? s with
    | some d => .ok d
    | none => .error (.invalidValue (.str s) "a Decimal type representing a fixed-point number")
  | j => .error (typeError j "a Decimal type representing a fixed-point number")

def instant : Decoder Instant
  | .str s =>
    match Relaxed.parse s with
    | .ok t => .ok t
    | .error e => .error (.custom e.message)
  | j => .error (typeError j "a formatted date and time string or a unix timestamp")

def uuid : Decoder Uuid
  | .str s =>
    match Uuid.parse s with
    | .ok u => .ok u
    | .error e => .error (.custom ("UUID parsing failed: " ++ e.message))
  | j => .error (typeError j "a UUID string")

end Decode

namespace Json

def ofDecimalNumber (d : Decimal) : Json := ofBinary64 d.toBinary64

end Json

namespace Amazon

/-- A postal address as Amazon's outbound and shipping services take it. -/
structure PostalAddress where
  name : String
  addressLine1 : String
  addressLine2 : Option String
  addressLine3 : Option String
  city : String
  stateOrRegion : String
  postalCode : String
  countryCode : String
  phone : Option String
  email : Option String
  deriving Repr, Inhabited

namespace PostalAddress

def decodeAs (name : String) (withEmail : Bool) : Decoder PostalAddress :=
  Record.run name (if withEmail then 10 else 9) do
    let name ← Record.req "name" Decode.string
    let addressLine1 ← Record.req "addressLine1" Decode.string
    let addressLine2 ← Record.opt "addressLine2" Decode.string
    let addressLine3 ← Record.opt "addressLine3" Decode.string
    let city ← Record.req "city" Decode.string
    let stateOrRegion ← Record.req "stateOrRegion" Decode.string
    let postalCode ← Record.req "postalCode" Decode.string
    let countryCode ← Record.req "countryCode" Decode.string
    let phone ← Record.opt "phone" Decode.string
    let email ← if withEmail then Record.opt "email" Decode.string else pure none
    pure { name, addressLine1, addressLine2, addressLine3, city, stateOrRegion, postalCode,
           countryCode, phone, email }

def toJson (a : PostalAddress) : Json :=
  Json.someFields [("name", some (.str a.name)), ("addressLine1", some (.str a.addressLine1)),
    ("addressLine2", a.addressLine2.map .str), ("addressLine3", a.addressLine3.map .str),
    ("city", some (.str a.city)), ("stateOrRegion", some (.str a.stateOrRegion)),
    ("postalCode", some (.str a.postalCode)), ("countryCode", some (.str a.countryCode)),
    ("phone", a.phone.map .str), ("email", a.email.map .str)]

end PostalAddress

/-! ### Outbound fulfillment -/

inductive ShippingSpeed where
  | standard
  | expedited
  | priority
  deriving DecidableEq, Repr, Inhabited

namespace ShippingSpeed

def names : List (String × ShippingSpeed) :=
  [("Standard", standard), ("Expedited", expedited), ("Priority", priority)]

def name : ShippingSpeed → String
  | standard => "Standard"
  | expedited => "Expedited"
  | priority => "Priority"

end ShippingSpeed

structure DeclaredValue where
  value : Decimal
  currencyCode : String
  deriving Repr, Inhabited

def DeclaredValue.decode : Decoder DeclaredValue := Record.run "DeclaredValue" 2 do
  let value ← Record.req "value" Decode.decimalNumber
  let currencyCode ← Record.req "currencyCode" Decode.string
  pure ⟨value, currencyCode⟩

structure FulfillmentItem where
  sellerSku : String
  quantity : Nat
  sellerFulfillmentOrderItemId : Option String
  declaredValue : Option DeclaredValue
  deriving Repr, Inhabited

def FulfillmentItem.decode : Decoder FulfillmentItem := Record.run "FulfillmentItem" 4 do
  let sellerSku ← Record.req "sellerSku" Decode.string
  let quantity ← Record.req "quantity" Decode.u32
  let sellerFulfillmentOrderItemId ← Record.opt "sellerFulfillmentOrderItemId" Decode.string
  let declaredValue ← Record.opt "declaredValue" DeclaredValue.decode
  pure ⟨sellerSku, quantity, sellerFulfillmentOrderItemId, declaredValue⟩

/-- A multi-channel fulfillment order; its id is the caller's and is sent again on every retry,
so that a create sent twice is made once. -/
structure FulfillmentOrderRequest where
  sellerFulfillmentOrderId : String
  displayableOrderId : String
  displayableOrderDateTime : Option Instant
  displayableOrderComment : Option String
  shippingSpeedCategory : ShippingSpeed
  destinationAddress : PostalAddress
  items : List FulfillmentItem
  marketplaceId : Option String
  deriving Repr, Inhabited

namespace FulfillmentOrderRequest

def decode : Decoder FulfillmentOrderRequest := Record.run "FulfillmentOrderRequest" 8 do
  let sellerFulfillmentOrderId ← Record.req "sellerFulfillmentOrderId" Decode.string
  let displayableOrderId ← Record.req "displayableOrderId" Decode.string
  let displayableOrderDateTime ← Record.opt "displayableOrderDateTime" Decode.instant
  let displayableOrderComment ← Record.opt "displayableOrderComment" Decode.string
  let shippingSpeedCategory ← Record.dflt "shippingSpeedCategory"
    (Decode.variant ShippingSpeed.names) .standard
  let destinationAddress ← Record.req "destinationAddress"
    (PostalAddress.decodeAs "DestinationAddress" false)
  let items ← Record.req "items" (Decode.list FulfillmentItem.decode)
  let marketplaceId ← Record.opt "marketplaceId" Decode.string
  pure { sellerFulfillmentOrderId, displayableOrderId, displayableOrderDateTime,
         displayableOrderComment, shippingSpeedCategory, destinationAddress, items,
         marketplaceId }

/-- The body of the create call; an order without a date is dated `now`, and one without a
marketplace goes to the account's first. -/
def body (r : FulfillmentOrderRequest) (accountMarketplace : Option String) (now : Instant) : Json :=
  let items := r.items.map fun item =>
    Json.someFields [("sellerSku", some (.str item.sellerSku)),
      ("sellerFulfillmentOrderItemId", some (.str (item.sellerFulfillmentOrderItemId.getD
        (r.sellerFulfillmentOrderId ++ "-" ++ item.sellerSku)))),
      ("quantity", some (.ofNat item.quantity)),
      ("perUnitDeclaredValue", item.declaredValue.map fun v =>
        Json.object [("value", .ofDecimalNumber v.value), ("currencyCode", .str v.currencyCode)])]
  Json.object [("marketplaceId", .optStr (r.marketplaceId.or accountMarketplace)),
    ("sellerFulfillmentOrderId", .str r.sellerFulfillmentOrderId),
    ("displayableOrderId", .str r.displayableOrderId),
    ("displayableOrderDate", .str (Rfc3339.renderSeconds (r.displayableOrderDateTime.getD now))),
    ("displayableOrderComment",
      .str (r.displayableOrderComment.getD ("Order " ++ r.displayableOrderId))),
    ("shippingSpeedCategory", .str r.shippingSpeedCategory.name),
    ("destinationAddress", r.destinationAddress.toJson), ("items", .arr items)]

end FulfillmentOrderRequest

/-- A stock level to publish for a SKU; no marketplaces means the account's. -/
structure InventoryUpdate where
  sku : String
  quantity : Int
  marketplaceIds : List String
  deriving Repr, Inhabited

def InventoryUpdate.decode : Decoder InventoryUpdate := Record.run "InventoryUpdate" 3 do
  let sku ← Record.req "sku" Decode.string
  let quantity ← Record.req "quantity" Decode.i64
  let marketplaceIds ← Record.dflt "marketplaceIds" (Decode.list Decode.string) []
  pure ⟨sku, quantity, marketplaceIds⟩

/-! ### Shipping -/

inductive WeightUnit where
  | gram
  | kilogram
  | ounce
  | pound
  deriving DecidableEq, Repr, Inhabited

namespace WeightUnit

def names : List (String × WeightUnit) :=
  [("GRAM", gram), ("KILOGRAM", kilogram), ("OUNCE", ounce), ("POUND", pound)]

def name : WeightUnit → String
  | gram => "GRAM"
  | kilogram => "KILOGRAM"
  | ounce => "OUNCE"
  | pound => "POUND"

end WeightUnit

structure Weight where
  value : Decimal
  unit : WeightUnit
  deriving Repr, Inhabited

def Weight.decode : Decoder Weight := Record.run "Weight" 2 do
  let value ← Record.req "value" Decode.decimalNumber
  let unit ← Record.req "unit" (Decode.variant WeightUnit.names)
  pure ⟨value, unit⟩

structure Dimensions where
  length : Decimal
  width : Decimal
  height : Decimal
  unit : String
  deriving Repr, Inhabited

def Dimensions.decode : Decoder Dimensions := Record.run "Dimensions" 4 do
  let length ← Record.req "length" Decode.decimalNumber
  let width ← Record.req "width" Decode.decimalNumber
  let height ← Record.req "height" Decode.decimalNumber
  let unit ← Record.req "unit" Decode.string
  pure ⟨length, width, height, unit⟩

/-- An amount with its currency. -/
structure Money where
  value : Decimal
  unit : String
  deriving Repr, Inhabited

def Money.decode : Decoder Money := Record.run "Currency" 2 do
  let value ← Record.req "value" Decode.decimalNumber
  let unit ← Record.req "unit" Decode.string
  pure ⟨value, unit⟩

structure Package where
  weight : Weight
  dimensions : Option Dimensions
  insuredValue : Option Money
  packageClientReferenceId : Option String
  deriving Repr, Inhabited

namespace Package

def decode : Decoder Package := Record.run "Package" 4 do
  let weight ← Record.req "weight" Weight.decode
  let dimensions ← Record.opt "dimensions" Dimensions.decode
  let insuredValue ← Record.opt "insuredValue" Money.decode
  let packageClientReferenceId ← Record.opt "packageClientReferenceId" Decode.string
  pure ⟨weight, dimensions, insuredValue, packageClientReferenceId⟩

def toJson (p : Package) : Json :=
  Json.someFields [
    ("weight", some (Json.object [("value", .ofDecimalNumber p.weight.value),
      ("unit", .str p.weight.unit.name)])),
    ("dimensions", p.dimensions.map fun d => Json.object [("length", .ofDecimalNumber d.length),
      ("width", .ofDecimalNumber d.width), ("height", .ofDecimalNumber d.height),
      ("unit", .str d.unit)]),
    ("insuredValue", p.insuredValue.map fun m =>
      Json.object [("value", .ofDecimalNumber m.value), ("unit", .str m.unit)]),
    ("packageClientReferenceId", p.packageClientReferenceId.map .str)]

end Package

structure RatesRequest where
  shipFrom : PostalAddress
  shipTo : PostalAddress
  packages : List Package
  serviceTypes : List String
  deriving Repr, Inhabited

namespace RatesRequest

def decode : Decoder RatesRequest := Record.run "RatesRequest" 4 do
  let shipFrom ← Record.req "shipFrom" (PostalAddress.decodeAs "ShippingAddress" true)
  let shipTo ← Record.req "shipTo" (PostalAddress.decodeAs "ShippingAddress" true)
  let packages ← Record.req "packages" (Decode.list Package.decode)
  let serviceTypes ← Record.dflt "serviceTypes" (Decode.list Decode.string) []
  pure ⟨shipFrom, shipTo, packages, serviceTypes⟩

def body (r : RatesRequest) : Json :=
  Json.someFields [("shipFrom", some r.shipFrom.toJson), ("shipTo", some r.shipTo.toJson),
    ("packages", some (.arr (r.packages.map Package.toJson))),
    ("serviceTypes", if r.serviceTypes.isEmpty then none else some (.arr (r.serviceTypes.map .str)))]

end RatesRequest

/-- A label purchase for a rate, tied to a stored order when one is known. -/
structure ShipmentRequest where
  orderId : Option Uuid
  clientReferenceId : String
  shipFrom : PostalAddress
  shipTo : PostalAddress
  packages : List Package
  rateId : String
  labelFormat : Option String
  labelSize : Option String
  deriving Repr, Inhabited

namespace ShipmentRequest

def decode : Decoder ShipmentRequest := Record.run "ShipmentRequest" 8 do
  let orderId ← Record.opt "orderId" Decode.uuid
  let clientReferenceId ← Record.req "clientReferenceId" Decode.string
  let shipFrom ← Record.req "shipFrom" (PostalAddress.decodeAs "ShippingAddress" true)
  let shipTo ← Record.req "shipTo" (PostalAddress.decodeAs "ShippingAddress" true)
  let packages ← Record.req "packages" (Decode.list Package.decode)
  let rateId ← Record.req "rateId" Decode.string
  let labelFormat ← Record.opt "labelFormat" Decode.string
  let labelSize ← Record.opt "labelSize" Decode.string
  pure { orderId, clientReferenceId, shipFrom, shipTo, packages, rateId, labelFormat, labelSize }

def format (r : ShipmentRequest) : String := r.labelFormat.getD "PDF"

def body (r : ShipmentRequest) : Json :=
  Json.object [("clientReferenceId", .str r.clientReferenceId),
    ("shipFrom", r.shipFrom.toJson), ("shipTo", r.shipTo.toJson),
    ("packages", .arr (r.packages.map Package.toJson)), ("rateId", .str r.rateId),
    ("requestedDocumentSpecification",
      Json.someFields [("format", some (.str r.format)), ("size", r.labelSize.map .str)])]

end ShipmentRequest

/-! ### Inbound -/

/-- Where inbound stock leaves from; fields are written capitalized and read either way. -/
structure ShipFromAddress where
  name : String
  addressLine1 : String
  addressLine2 : Option String
  city : String
  stateOrProvinceCode : String
  postalCode : String
  countryCode : String
  districtOrCounty : Option String
  deriving Repr, Inhabited

namespace ShipFromAddress

def decode : Decoder ShipFromAddress := Record.run "ShipFromAddress" 8 do
  let name ← Record.fieldOf ["Name", "name"] Decode.string .required
  let addressLine1 ← Record.fieldOf ["AddressLine1", "addressLine1"] Decode.string .required
  let addressLine2 ← Record.fieldOf ["AddressLine2", "addressLine2"] (Decode.option Decode.string)
    (.optional none)
  let city ← Record.fieldOf ["City", "city"] Decode.string .required
  let stateOrProvinceCode ← Record.fieldOf ["StateOrProvinceCode", "stateOrProvinceCode"]
    Decode.string .required
  let postalCode ← Record.fieldOf ["PostalCode", "postalCode"] Decode.string .required
  let countryCode ← Record.fieldOf ["CountryCode", "countryCode"] Decode.string .required
  let districtOrCounty ← Record.fieldOf ["DistrictOrCounty", "districtOrCounty"]
    (Decode.option Decode.string) (.optional none)
  pure { name, addressLine1, addressLine2, city, stateOrProvinceCode, postalCode, countryCode,
         districtOrCounty }

def toJson (a : ShipFromAddress) : Json :=
  Json.someFields [("Name", some (.str a.name)), ("AddressLine1", some (.str a.addressLine1)),
    ("AddressLine2", a.addressLine2.map .str), ("City", some (.str a.city)),
    ("StateOrProvinceCode", some (.str a.stateOrProvinceCode)),
    ("PostalCode", some (.str a.postalCode)), ("CountryCode", some (.str a.countryCode)),
    ("DistrictOrCounty", a.districtOrCounty.map .str)]

end ShipFromAddress

structure PlanItem where
  sellerSku : String
  quantity : Nat
  asin : Option String
  condition : Option String
  deriving Repr, Inhabited

def PlanItem.decode : Decoder PlanItem := Record.run "PlanItem" 4 do
  let sellerSku ← Record.req "sellerSku" Decode.string
  let quantity ← Record.req "quantity" Decode.u32
  let asin ← Record.opt "asin" Decode.string
  let condition ← Record.opt "condition" Decode.string
  pure ⟨sellerSku, quantity, asin, condition⟩

def defaultLabelPrep : String := "SELLER_LABEL"

structure InboundPlanRequest where
  shipFromAddress : ShipFromAddress
  labelPrepPreference : Option String
  items : List PlanItem
  deriving Repr, Inhabited

namespace InboundPlanRequest

def decode : Decoder InboundPlanRequest := Record.run "InboundPlanRequest" 3 do
  let shipFromAddress ← Record.req "shipFromAddress" ShipFromAddress.decode
  let labelPrepPreference ← Record.opt "labelPrepPreference" Decode.string
  let items ← Record.req "items" (Decode.list PlanItem.decode)
  pure ⟨shipFromAddress, labelPrepPreference, items⟩

def body (r : InboundPlanRequest) : Json :=
  Json.object [("ShipFromAddress", r.shipFromAddress.toJson),
    ("LabelPrepPreference", .str (r.labelPrepPreference.getD defaultLabelPrep)),
    ("InboundShipmentPlanRequestItems", .arr (r.items.map fun item =>
      Json.object [("SellerSKU", .str item.sellerSku), ("ASIN", .optStr item.asin),
        ("Condition", .str (item.condition.getD "NewItem")), ("Quantity", .ofNat item.quantity)]))]

end InboundPlanRequest

structure ShipmentItem where
  sellerSku : String
  quantityShipped : Nat
  quantityInCase : Option Nat
  prepDetailsList : Option Json
  deriving Repr, Inhabited

def ShipmentItem.decode : Decoder ShipmentItem := Record.run "ShipmentItem" 4 do
  let sellerSku ← Record.req "sellerSku" Decode.string
  let quantityShipped ← Record.req "quantityShipped" Decode.u32
  let quantityInCase ← Record.opt "quantityInCase" Decode.u32
  let prepDetailsList ← Record.opt "prepDetailsList" Decode.any
  pure ⟨sellerSku, quantityShipped, quantityInCase, prepDetailsList⟩

structure InboundShipmentRequest where
  shipmentId : String
  destinationFulfillmentCenterId : String
  shipFromAddress : ShipFromAddress
  labelPrepPreference : Option String
  shipmentName : Option String
  items : List ShipmentItem
  deriving Repr, Inhabited

namespace InboundShipmentRequest

def decode : Decoder InboundShipmentRequest := Record.run "InboundShipmentRequest" 6 do
  let shipmentId ← Record.req "shipmentId" Decode.string
  let destinationFulfillmentCenterId ← Record.req "destinationFulfillmentCenterId" Decode.string
  let shipFromAddress ← Record.req "shipFromAddress" ShipFromAddress.decode
  let labelPrepPreference ← Record.opt "labelPrepPreference" Decode.string
  let shipmentName ← Record.opt "shipmentName" Decode.string
  let items ← Record.req "items" (Decode.list ShipmentItem.decode)
  pure { shipmentId, destinationFulfillmentCenterId, shipFromAddress, labelPrepPreference,
         shipmentName, items }

def body (r : InboundShipmentRequest) (shipmentId labelPrep name : String) : Json :=
  Json.object [("ShipmentId", .str shipmentId),
    ("InboundShipmentHeader", Json.object [("ShipmentName", .str name),
      ("ShipFromAddress", r.shipFromAddress.toJson),
      ("DestinationFulfillmentCenterId", .str r.destinationFulfillmentCenterId),
      ("LabelPrepPreference", .str labelPrep), ("ShipmentStatus", .str "WORKING")]),
    ("InboundShipmentItems", .arr (r.items.map fun item =>
      Json.object [("SellerSKU", .str item.sellerSku),
        ("QuantityShipped", .ofNat item.quantityShipped),
        ("QuantityInCase", match item.quantityInCase with
          | some n => .ofNat n
          | none => .null),
        ("PrepDetailsList", item.prepDetailsList.getD .null)]))]

end InboundShipmentRequest

/-- Which box labels to print. -/
structure LabelRequest where
  pageType : Option String := none
  labelType : Option String := none
  numberOfPackages : Option Nat := none
  deriving Repr, Inhabited

def LabelRequest.decode : Decoder LabelRequest := Record.run "LabelRequest" 3 do
  let pageType ← Record.opt "pageType" Decode.string
  let labelType ← Record.opt "labelType" Decode.string
  let numberOfPackages ← Record.opt "numberOfPackages" Decode.u32
  pure ⟨pageType, labelType, numberOfPackages⟩

def defaultPageType : String := "PackageLabel_Letter"

end Amazon

end SellerSync
