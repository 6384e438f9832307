import SellerSync.Order.Incoming
import SellerSync.Json.Scalars
/-!
JSON views of incoming orders, products and stock levels. Every field is written, absent ones as
`null`; an address always has all six keys. The raw order document is left out.
-/
namespace SellerSync

namespace Address

def toJson (a : Address) : Json :=
  .object [("line1", .optStr a.line1), ("line2", .optStr a.line2), ("city", .optStr a.city),
    ("region", .optStr a.region), ("postal_code", .optStr a.postalCode),
    ("country", .optStr a.country)]

end Address

namespace OrderTotals

def toJson (t : OrderTotals) : Json :=
  .object [("subtotal", .opt .ofDecimal t.subtotal), ("tax", .opt .ofDecimal t.tax),
    ("shipping", .opt .ofDecimal t.shipping), ("discounts", .opt .ofDecimal t.discounts),
    ("total", .opt .ofDecimal t.total)]

end OrderTotals

namespace IncomingLine

def toJson (l : IncomingLine) : Json :=
  .object [("external_line_id", .optStr l.externalLineId),
    ("external_item_id", .optStr l.externalItemId), ("sku", .optStr l.sku),
    ("title", .optStr l.title), ("quantity", .ofInt l.quantity),
    ("price", .opt .ofDecimal l.price), ("tax", .opt .ofDecimal l.tax),
    ("discounts", .opt .ofDecimal l.discounts),
    ("fulfillment_status", .optStr l.fulfillmentStatus),
    ("weight_lbs", .opt .ofBinary64Spelled l.weightLbs),
    ("shipping_estimate", .opt .ofDecimal l.shippingEstimate)]

end IncomingLine

namespace IncomingCustomer

def toJson (c : IncomingCustomer) : Json :=
  .object [("external_id", .optStr c.externalId), ("email", .optStr c.email),
    ("phone", .optStr c.phone), ("first_name", .optStr c.firstName),
    ("last_name", .optStr c.lastName), ("address", .opt Address.toJson c.address),
    ("raw", c.raw)]

end IncomingCustomer

namespace IncomingOrder

def toJson (o : IncomingOrder) : Json :=
  .object [("external_order_id", .str o.externalOrderId), ("status", .str o.status),
    ("currency", .optStr o.currency), ("totals", o.totals.toJson),
    ("placed_at", .opt .ofInstant o.placedAt), ("closed_at", .opt .ofInstant o.closedAt),
    ("marketplace_id", .optStr o.marketplaceId),
    ("fulfillment_channel", .optStr o.fulfillmentChannel),
    ("customer", .opt IncomingCustomer.toJson o.customer),
    ("lines", .arr (o.lines.map IncomingLine.toJson)), ("ship_to", o.shipTo.toJson),
    ("fulfillment_cost", .opt .ofDecimal o.fulfillmentCost), ("label_hint", .bool o.labelHint)]

end IncomingOrder

namespace IncomingVariant

def toJson (v : IncomingVariant) : Json :=
  .object [("external_variant_id", .optStr v.externalVariantId),
    ("inventory_item_id", .optStr v.inventoryItemId), ("sku", .optStr v.sku),
    ("title", .str v.title), ("raw", v.raw)]

end IncomingVariant

namespace IncomingProduct

def toJson (p : IncomingProduct) : Json :=
  .object [("external_item_id", .str p.externalItemId), ("title", .str p.title),
    ("active", .bool p.active), ("variants", .arr (p.variants.map IncomingVariant.toJson))]

end IncomingProduct

namespace IncomingStock

def toJson (s : IncomingStock) : Json :=
  .object [("external_variant_id", .optStr s.externalVariantId), ("sku", .optStr s.sku),
    ("title", .optStr s.title), ("location_id", .optStr s.locationId),
    ("available", .opt .ofInt s.available)]

end IncomingStock

end SellerSync
