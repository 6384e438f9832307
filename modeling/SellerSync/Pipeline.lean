import SellerSync.Service.Basic
import SellerSync.Store.Accounts
import SellerSync.Store.Catalog
import SellerSync.Store.Customers
import SellerSync.Store.Orders
import SellerSync.Order.Raw
/-! Folding incoming marketplace orders, products and stock levels into the store. -/
namespace SellerSync

structure OrderOutcome where
  orderId : Uuid
  externalOrderId : String
  customerId : Option Uuid
  lines : Nat
  auditLines : Nat
  deriving Repr, Inhabited

structure BatchSummary where
  applied : Nat := 0
  skipped : Nat := 0
  deriving Repr, Inhabited

structure ProductOutcome where
  variants : Nat := 0
  skipped : Nat := 0
  deriving Repr, Inhabited

namespace Pipeline

open SyncM

/-- The customer an order belongs to, linked under its external id when it has one. -/
def resolveCustomer (account : ChannelAccount) (order : IncomingOrder) : SyncM (Option Uuid) := do
  let some c := order.customer | return none
  if c.externalId.isNone && c.email.isNone && c.phone.isNone then return none
  let fresh ← freshId
  let at_ ← now
  let id ← onStore fun s =>
    s.resolveCustomer account.sellerId account.id c.externalId (.ofIncoming c) fresh at_
  if let some ext := c.externalId then
    let fresh ← freshId
    let at_ ← now
    let _ ← onStore (·.upsertCustomerLink account id ext c.raw fresh at_)
  return some id

/-- The item an order line sells. -/
def resolveLineItem (account : ChannelAccount) (line : IncomingLine) : SyncM (Option Uuid) := do
  if let some ext := line.externalItemId then
    if let some m := (← store).findItemLink account.id ext then
      let at_ ← now
      setStore ((← store).touchItemLink m.id at_)
      return some m.itemId
  let some sku := line.sku | return none
  let fresh ← freshId
  let at_ ← now
  let item ← onStore (·.upsertItem account.sellerId sku (line.title.getD sku) fresh at_)
  let link : NewItemLink :=
    { itemId := item.id, externalItemId := line.externalItemId.getD sku, externalVariantId := none,
      inventoryItemId := none, sku, active := true,
      raw := Json.object [("source", .str "order_line")] }
  let fresh ← freshId
  let at_ ← now
  let _ ← onStore (·.upsertItemLink account link fresh at_)
  return some item.id

/-- Rebuilds the audit lines of an order; the count is the number of its lines. -/
def projectAudit (account : ChannelAccount) (stored : StoredOrder) (order : IncomingOrder)
    (source : IngestSource) : SyncM Nat := do
  let labelPresent := order.labelHint || (← store).hasLabelForOrder stored.id
  let (status, reasons) := Quality.assess order.shipTo labelPresent
  for line in order.lines do
    let costs : LineCosts :=
      { fulfillment := order.fulfillmentCost.or line.shippingEstimate, prep := some Decimal.zero }
    let total ← expect costs.total
    let fresh ← freshId
    let at_ ← now
    let _ ← onStore (·.upsertAudit
      { id := fresh, sellerId := account.sellerId, accountId := account.id,
        marketplace := account.marketplace, marketplaceId := order.marketplaceId,
        fulfillmentChannel := order.fulfillmentChannel, source, orderId := stored.id,
        orderExternalId := stored.externalOrderId, orderDate := order.placedAt, sku := line.sku,
        itemName := line.title, quantity := line.quantity, weightLbs := line.weightLbs,
        itemCount := if line.quantity > 0 then line.quantity else 1, shipTo := order.shipTo,
        costs, prepFeeRequired := true, status, reasons, originalCostTotal := total,
        updatedAt := at_ })
  return order.lines.length

/-- Upserts an order with its customer, lines and audit lines. -/
def applyOrder (account : ChannelAccount) (order : IncomingOrder) (source : IngestSource) :
    SyncM OrderOutcome := do
  let customerId ← resolveCustomer account order
  let fresh ← freshId
  let at_ ← now
  let stored ← onStore (·.upsertOrder
    { id := fresh, sellerId := account.sellerId, accountId := account.id,
      marketplace := account.marketplace, marketplaceId := order.marketplaceId,
      fulfillmentChannel := order.fulfillmentChannel, source,
      externalOrderId := order.externalOrderId, status := order.status,
      currency := order.currency, totals := order.totals, customerId,
      placedAt := order.placedAt, closedAt := order.closedAt, raw := order.raw, syncedAt := at_ })
  for line in order.lines do
    let itemId ← resolveLineItem account line
    let fresh ← freshId
    let _ ← onStore (·.upsertLine
      { id := fresh, orderId := stored.id, externalLineId := line.externalLineId, itemId,
        sku := line.sku, title := line.title, quantity := line.quantity, price := line.price,
        tax := line.tax, discounts := line.discounts,
        fulfillmentStatus := line.fulfillmentStatus })
  let auditLines ← projectAudit account stored order source
  return ⟨stored.id, stored.externalOrderId, customerId, order.lines.length, auditLines⟩

/-- Translates and applies each order on its own; one that does not translate or apply is
skipped without touching the others. -/
def applyRawOrders (account : ChannelAccount) (orders : List RawOrder) (source : IngestSource) :
    SyncM BatchSummary := do
  let mut summary : BatchSummary := {}
  for raw in orders do
    match raw.translate with
    | .error _ => summary := { summary with skipped := summary.skipped + 1 }
    | .ok order =>
      let applied ← tryCatch (do let _ ← applyOrder account order source; pure true)
        fun _ => pure false
      if applied then summary := { summary with applied := summary.applied + 1 }
      else summary := { summary with skipped := summary.skipped + 1 }
  return summary

/-- Links every variant that has a SKU to its item; variants without one are skipped. -/
def applyProduct (account : ChannelAccount) (product : IncomingProduct) : SyncM ProductOutcome := do
  let mut outcome : ProductOutcome := {}
  for v in product.variants do
    match v.sku with
    | none => outcome := { outcome with skipped := outcome.skipped + 1 }
    | some sku =>
      let fresh ← freshId
      let at_ ← now
      let item ← onStore (·.upsertItem account.sellerId sku v.title fresh at_)
      let link : NewItemLink :=
        { itemId := item.id, externalItemId := product.externalItemId,
          externalVariantId := v.externalVariantId, inventoryItemId := v.inventoryItemId, sku,
          active := product.active, raw := v.raw }
      let fresh ← freshId
      let at_ ← now
      let _ ← onStore (·.upsertItemLink account link fresh at_)
      outcome := { outcome with variants := outcome.variants + 1 }
  return outcome

/-- Records one stock observation; none when it cannot be tied to an item or has no level. -/
def applyStock (account : ChannelAccount) (stock : IncomingStock) : SyncM (Option StockLevel) := do
  let itemId? : Option Uuid ← match stock.externalVariantId, stock.sku with
    | some ext, _ =>
      match (← store).findItemLink account.id ext with
      | none => pure none
      | some m =>
        let at_ ← now
        setStore ((← store).touchItemLink m.id at_)
        pure (some m.itemId)
    | none, some sku => do
      let fresh ← freshId
      let at_ ← now
      let item ← onStore (·.upsertItem account.sellerId sku (stock.title.getD sku) fresh at_)
      let link : NewItemLink :=
        { itemId := item.id, externalItemId := sku, externalVariantId := none,
          inventoryItemId := none, sku, active := true, raw := stock.raw }
      let fresh ← freshId
      let at_ ← now
      let _ ← onStore (·.upsertItemLink account link fresh at_)
      pure (some item.id)
    | none, none => pure none
  let some itemId := itemId? | return none
  let some available := stock.available | return none
  let fresh ← freshId
  let at_ ← now
  some <$> onStore (·.upsertStock itemId account.id stock.locationId available fresh at_)

/-- Stores a label and marks its order's audit lines as labelled. -/
def recordLabel (account : ChannelAccount) (input : LabelInput) : SyncM ShippingLabel := do
  let fresh ← freshId
  let label ← onStore (·.upsertLabel
    { id := fresh, sellerId := account.sellerId, accountId := account.id,
      marketplace := account.marketplace, orderId := input.orderId, shipmentId := input.shipmentId,
      labelFormat := input.labelFormat, downloadUrl := input.downloadUrl,
      document := input.document, mimeType := input.mimeType, expiresAt := input.expiresAt,
      raw := input.raw })
  if let some orderId := label.orderId then
    for line in (← store).auditForOrder orderId do
      let (status, reasons) := Quality.assess line.shipTo true
      let at_ ← now
      let _ ← onStore (·.upsertAudit { line with status, reasons, updatedAt := at_ })
  return label

end Pipeline

end SellerSync
