import SellerSync.Sync.Connect
import SellerSync.Sync.Queue
import SellerSync.Sync.Tick
import SellerSync.Rates.Cache
import SellerSync.Amazon.Outbound
import SellerSync.Amazon.Shipping
import SellerSync.Amazon.Inbound
import SellerSync.Store.Erase
import SellerSync.Json.Scalars
/-! How a session shows records. -/
namespace SellerSync

namespace View

def relative (origin t : Instant) : String :=
  let secs := (t.toNanos - origin.toNanos) / 1000000000
  if secs < 0 then "now-" ++ toString secs.natAbs ++ "s" else "now+" ++ toString secs.toNat ++ "s"

def uuid (u : Uuid) : Json := .str u.toText

def strs (xs : List String) : Json := .arr (xs.map .str)

def address (a : Address) : Json :=
  Json.someFields [("line1", a.line1.map .str), ("line2", a.line2.map .str),
    ("city", a.city.map .str), ("region", a.region.map .str),
    ("postal_code", a.postalCode.map .str), ("country", a.country.map .str)]

def flags (f : AccountFlags) : Json :=
  Json.object [("orders_in", .bool f.ordersIn), ("inventory_out", .bool f.inventoryOut),
    ("fulfillment_out", .bool f.fulfillmentOut), ("labels", .bool f.labels)]

def account (origin : Instant) (a : ChannelAccount) : Json :=
  let rel := fun (t : Instant) => Json.str (relative origin t)
  Json.someFields [("id", some (uuid a.id)), ("seller_id", some (uuid a.sellerId)),
    ("marketplace", some (.str a.marketplace.name)), ("external_id", a.externalId.map .str),
    ("access_token", some (.optStr a.accessToken)),
    ("refresh_token", some (.optStr a.refreshToken)),
    ("access_token_expires_at", a.accessTokenExpiresAt.map rel),
    ("refresh_token_expires_at", a.refreshTokenExpiresAt.map rel),
    ("region", a.region.map .str), ("marketplace_ids", some (strs a.marketplaceIds)),
    ("flags", some (flags a.flags)), ("status", some (.str a.status.name)),
    ("last_synced_at", a.lastSyncedAt.map rel)]

def totals (t : OrderTotals) : Json :=
  Json.someFields [("subtotal", t.subtotal.map .ofDecimal), ("tax", t.tax.map .ofDecimal),
    ("shipping", t.shipping.map .ofDecimal), ("discounts", t.discounts.map .ofDecimal),
    ("total", t.total.map .ofDecimal)]

def order (o : StoredOrder) : Json :=
  Json.someFields [("id", some (uuid o.id)), ("seller_id", some (uuid o.sellerId)),
    ("account_id", some (uuid o.accountId)), ("marketplace", some (.str o.marketplace.name)),
    ("marketplace_id", o.marketplaceId.map .str),
    ("fulfillment_channel", o.fulfillmentChannel.map .str),
    ("source", some (.str o.source.name)), ("external_order_id", some (.str o.externalOrderId)),
    ("status", some (.str o.status)), ("currency", o.currency.map .str),
    ("totals", some (totals o.totals)), ("customer_id", o.customerId.map uuid),
    ("placed_at", o.placedAt.map .ofInstant), ("closed_at", o.closedAt.map .ofInstant),
    ("raw", some o.raw)]

def line (l : StoredLine) : Json :=
  Json.someFields [("id", some (uuid l.id)), ("order_id", some (uuid l.orderId)),
    ("external_line_id", l.externalLineId.map .str), ("item_id", l.itemId.map uuid),
    ("sku", l.sku.map .str), ("title", l.title.map .str), ("quantity", some (.ofInt l.quantity)),
    ("price", l.price.map .ofDecimal), ("tax", l.tax.map .ofDecimal),
    ("discounts", l.discounts.map .ofDecimal),
    ("fulfillment_status", l.fulfillmentStatus.map .str)]

def costs (c : LineCosts) : Json :=
  Json.someFields [("fulfillment", c.fulfillment.map .ofDecimal), ("label", c.label.map .ofDecimal),
    ("prep", c.prep.map .ofDecimal), ("third_party", c.thirdParty.map .ofDecimal)]

def audit (a : AuditLine) : Json :=
  Json.someFields [("id", some (uuid a.id)), ("seller_id", some (uuid a.sellerId)),
    ("account_id", some (uuid a.accountId)), ("marketplace", some (.str a.marketplace.name)),
    ("marketplace_id", a.marketplaceId.map .str),
    ("fulfillment_channel", a.fulfillmentChannel.map .str),
    ("source", some (.str a.source.name)), ("order_id", some (uuid a.orderId)),
    ("order_external_id", some (.str a.orderExternalId)),
    ("order_date", a.orderDate.map .ofInstant), ("sku", a.sku.map .str),
    ("item_name", a.itemName.map .str), ("quantity", some (.ofInt a.quantity)),
    ("weight_lbs", a.weightLbs.map .ofBinary64), ("item_count", some (.ofInt a.itemCount)),
    ("ship_to", some (address a.shipTo)), ("costs", some (costs a.costs)),
    ("prep_fee_required", some (.bool a.prepFeeRequired)),
    ("data_quality_status", some (.str a.status.name)),
    ("data_quality_reasons", some (strs (a.reasons.map (·.name)))),
    ("original_cost_total", a.originalCostTotal.map .ofDecimal)]

def itemLink (m : ItemLink) : Json :=
  Json.someFields [("id", some (uuid m.id)), ("item_id", some (uuid m.itemId)),
    ("account_id", some (uuid m.accountId)), ("marketplace", some (.str m.marketplace.name)),
    ("external_item_id", some (.str m.externalItemId)),
    ("external_variant_id", m.externalVariantId.map .str),
    ("inventory_item_id", m.inventoryItemId.map .str), ("sku", some (.str m.sku)),
    ("active", some (.bool m.active)), ("raw", some m.raw)]

def customer (c : Customer) : Json :=
  Json.someFields [("id", some (uuid c.id)), ("seller_id", some (uuid c.sellerId)),
    ("email", c.email.map .str), ("phone", c.phone.map .str),
    ("first_name", c.firstName.map .str), ("last_name", c.lastName.map .str),
    ("addresses", some (.arr (c.addresses.map address)))]

def item (i : CatalogItem) : Json :=
  Json.object [("id", uuid i.id), ("seller_id", uuid i.sellerId), ("sku", .str i.sku),
    ("title", .str i.title)]

def stock (s : StockLevel) : Json :=
  Json.someFields [("id", some (uuid s.id)), ("item_id", some (uuid s.itemId)),
    ("account_id", some (uuid s.accountId)), ("location_id", s.locationId.map .str),
    ("available", some (.ofInt s.available))]

def label (l : ShippingLabel) : Json :=
  Json.someFields [("id", some (uuid l.id)), ("seller_id", some (uuid l.sellerId)),
    ("account_id", some (uuid l.accountId)), ("marketplace", some (.str l.marketplace.name)),
    ("order_id", l.orderId.map uuid), ("shipment_id", some (.str l.shipmentId)),
    ("label_format", l.labelFormat.map .str), ("download_url", l.downloadUrl.map .str),
    ("document", l.document.map .str), ("mime_type", l.mimeType.map .str),
    ("expires_at", l.expiresAt.map .ofInstant), ("raw", some l.raw)]

def quote (origin : Instant) (q : CachedQuote) : Json :=
  Json.someFields [("id", some (uuid q.id)), ("city_lower", some (.str q.cityLower)),
    ("state_lower", some (.str q.stateLower)), ("weight_band", some (.ofBinary64 q.weightBand)),
    ("item_count", some (.ofNat q.itemCount)), ("amount", some (.ofDecimal q.amount)),
    ("currency", some (.str q.currency)), ("provider", q.provider.map .str),
    ("raw", some q.raw), ("expires_at", q.expiresAt.map fun t => .str (relative origin t))]

def fetchedQuote (q : FetchedQuote) : Json :=
  Json.object [("amount", .ofDecimal q.amount), ("currency", .optStr q.currency),
    ("provider", .optStr q.provider), ("raw", q.raw)]

def transaction (origin : Instant) (t : OAuthTransaction) : Json :=
  Json.someFields [("nonce", some (.str t.nonce)), ("seller_id", some (uuid t.sellerId)),
    ("marketplace", some (.str t.marketplace.name)), ("region", t.region.map .str),
    ("shop_domain", t.shopDomain.map .str), ("external_id", t.externalId.map .str),
    ("redirect_to", t.redirectTo.map .str),
    ("expires_at", some (.str (relative origin t.expiresAt)))]

def counts (cs : List (String × Nat)) : Json := Json.object (cs.map fun (k, n) => (k, .ofNat n))

def deletion (d : DeletionRequest) : Json :=
  Json.someFields [("id", some (uuid d.id)), ("provider", some (.str d.provider.name)),
    ("external_id", some (.str d.externalId)), ("status", some (.str d.status.name)),
    ("detail", d.detail.map .str), ("counts", some (counts d.counts)),
    ("completed", some (.bool d.completedAt.isSome))]

def erasure (e : ErasureOutcome) : Json :=
  Json.someFields [("deleted", some (.bool e.deleted)), ("counts", e.counts.map counts),
    ("reason", e.reason.map .str)]

def ingest : IngestOutcome → Json
  | .ignored reason => Json.object [("outcome", .str "ignored"), ("reason", .str reason)]
  | .order orderId lines =>
    Json.object [("outcome", .str "order"), ("order_id", uuid orderId), ("lines", .ofNat lines)]
  | .product variants skipped =>
    Json.object [("outcome", .str "product"), ("variants", .ofNat variants),
      ("skipped", .ofNat skipped)]
  | .inventory applied => Json.object [("outcome", .str "inventory"), ("applied", .bool applied)]

def job (j : JobInfo) : Json :=
  let state := match j.state with
    | .queued => [("state", Json.str "queued")]
    | .running => [("state", Json.str "running")]
    | .completed result => [("state", Json.str "completed"), ("result", ingest result)]
    | .failed error kind => [("state", .str "failed"), ("error", .str error), ("kind", .str kind)]
  Json.object ([("id", uuid j.id), ("marketplace", .str j.marketplace.name),
    ("topic", .str j.topic)] ++ state)

def pullReport (r : PullReport) : Json :=
  Json.object [("orders", .ofNat r.orders), ("skipped_orders", .ofNat r.skippedOrders),
    ("products", .ofNat r.products), ("inventory", .ofNat r.inventory),
    ("warnings", strs r.warnings)]

def tick (t : TickSummary) : Json :=
  Json.object [("dispatched", .ofNat t.dispatched), ("not_due", .ofNat t.notDue),
    ("succeeded", .ofNat t.succeeded), ("failed", .ofNat t.failed)]

def registration (r : WebhookRegistration) : Json :=
  Json.object [("created", strs r.created), ("existing", strs r.existing)]

def connection (origin : Instant) (c : ConnectionOutcome) : Json :=
  Json.someFields [("account", some (account origin c.account)),
    ("webhooks", c.webhooks.map registration), ("report", c.report.map pullReport),
    ("redirect_to", c.redirectTo.map .str)]

def orderOutcome (o : OrderOutcome) : Json :=
  Json.object [("order_id", uuid o.orderId), ("external_order_id", .str o.externalOrderId),
    ("customer_id", .opt uuid o.customerId), ("lines", .ofNat o.lines),
    ("audit_lines", .ofNat o.auditLines)]

def batch (b : BatchSummary) : Json :=
  Json.object [("applied", .ofNat b.applied), ("skipped", .ofNat b.skipped)]

def productOutcome (p : ProductOutcome) : Json :=
  Json.object [("variants", .ofNat p.variants), ("skipped", .ofNat p.skipped)]

def pushReport (r : PushReport) : Json :=
  Json.object [("pushed", strs r.pushed), ("skipped", strs r.skipped)]

def response (r : ResponseBody) : Json :=
  Json.object [("kind", .str r.kindName), ("body", r.serialize)]

def inboundLabels (origin : Instant) (l : InboundLabels) : Json :=
  Json.someFields [("url", l.url.map .str), ("page_type", some (.str l.pageType)),
    ("label_type", l.labelType.map .str), ("fetched_at", some (.str (relative origin l.fetchedAt)))]

def inboundItem (i : InboundItem) : Json :=
  Json.someFields [("seller_sku", some (.str i.sellerSku)),
    ("quantity_shipped", some (.ofNat i.quantityShipped)),
    ("quantity_in_case", i.quantityInCase.map .ofNat), ("prep_details", i.prepDetails)]

def inbound (origin : Instant) (s : InboundShipment) : Json :=
  Json.someFields [("id", some (uuid s.id)), ("seller_id", some (uuid s.sellerId)),
    ("account_id", some (uuid s.accountId)), ("marketplace_id", s.marketplaceId.map .str),
    ("shipment_id", some (.str s.shipmentId)),
    ("destination_fulfillment_center_id", some (.str s.destinationCenterId)),
    ("label_prep_preference", some (.str s.labelPrepPreference)),
    ("shipment_name", some (.str s.shipmentName)),
    ("items", some (.arr (s.items.map inboundItem))),
    ("labels", s.labels.map (inboundLabels origin)), ("raw_shipment", some s.rawShipment)]

end View

end SellerSync
