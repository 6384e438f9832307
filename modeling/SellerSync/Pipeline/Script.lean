import SellerSync.Pipeline
import SellerSync.Store.Calls
/-! Ingestions and the recording of a label as scripts of store calls, each call an atomic step;
`toSyncM` runs a script as a service does. -/
namespace SellerSync

/-- A program that draws fresh ids and clock readings and makes store calls. -/
inductive Script (α : Type) where
  | done (a : α)
  | fail (e : SyncError)
  | fresh (k : Uuid → Script α)
  | clock (k : Instant → Script α)
  | call (c : Store.Call) (k : c.Result → Script α)

namespace Script

def bind : Script α → (α → Script β) → Script β
  | done a, f => f a
  | fail e, _ => fail e
  | fresh k, f => fresh fun u => bind (k u) f
  | clock k, f => clock fun t => bind (k t) f
  | call c k, f => call c fun r => bind (k r) f

def tryCatch : Script α → (SyncError → Script α) → Script α
  | done a, _ => done a
  | fail e, h => h e
  | fresh k, h => fresh fun u => tryCatch (k u) h
  | clock k, h => clock fun t => tryCatch (k t) h
  | call c k, h => call c fun r => tryCatch (k r) h

instance : Monad Script where
  pure := done
  bind := bind

instance : MonadExcept SyncError Script where
  throw := fail
  tryCatch := tryCatch

def freshId : Script Uuid := fresh done

def now : Script Instant := clock done

def perform (c : Store.Call) : Script c.Result := call c done

def expect (r : Except SyncError α) : Script α :=
  match r with
  | .ok a => pure a
  | .error e => fail e

def toSyncM : Script α → SyncM α
  | done a => pure a
  | fail e => throw e
  | fresh k => SyncM.freshId >>= fun u => toSyncM (k u)
  | clock k => SyncM.now >>= fun t => toSyncM (k t)
  | call c k => SyncM.onStore c.run >>= fun r => toSyncM (k r)

/-! ### The ingestions -/

def resolveCustomer (account : ChannelAccount) (order : IncomingOrder) : Script (Option Uuid) := do
  let some c := order.customer | return none
  if c.externalId.isNone && c.email.isNone && c.phone.isNone then return none
  let fresh ← freshId
  let at_ ← now
  let id ← perform
    (.resolveCustomer account.sellerId account.id c.externalId (.ofIncoming c) fresh at_)
  if let some ext := c.externalId then
    let fresh ← freshId
    let at_ ← now
    let _ ← perform (.upsertCustomerLink account id ext c.raw fresh at_)
  return some id

def resolveLineItem (account : ChannelAccount) (line : IncomingLine) : Script (Option Uuid) := do
  if let some ext := line.externalItemId then
    if let some m ← perform (.findItemLink account.id ext) then
      let at_ ← now
      perform (.touchItemLink m.id at_)
      return some m.itemId
  let some sku := line.sku | return none
  let fresh ← freshId
  let at_ ← now
  let item ← perform (.upsertItem account.sellerId sku (line.title.getD sku) fresh at_)
  let link : NewItemLink :=
    { itemId := item.id, externalItemId := line.externalItemId.getD sku, externalVariantId := none,
      inventoryItemId := none, sku, active := true,
      raw := Json.object [("source", .str "order_line")] }
  let fresh ← freshId
  let at_ ← now
  let _ ← perform (.upsertItemLink account link fresh at_)
  return some item.id

def projectAudit (account : ChannelAccount) (stored : StoredOrder) (order : IncomingOrder)
    (source : IngestSource) : Script Nat := do
  let labelPresent := order.labelHint || (← perform (.hasLabelForOrder stored.id))
  let (status, reasons) := Quality.assess order.shipTo labelPresent
  for line in order.lines do
    let costs : LineCosts :=
      { fulfillment := order.fulfillmentCost.or line.shippingEstimate, prep := some Decimal.zero }
    let total ← expect costs.total
    let fresh ← freshId
    let at_ ← now
    let _ ← perform (.upsertAudit
      { id := fresh, sellerId := account.sellerId, accountId := account.id,
        marketplace := account.marketplace, marketplaceId := order.marketplaceId,
        fulfillmentChannel := order.fulfillmentChannel, source, orderId := stored.id,
        orderExternalId := stored.externalOrderId, orderDate := order.placedAt, sku := line.sku,
        itemName := line.title, quantity := line.quantity, weightLbs := line.weightLbs,
        itemCount := if line.quantity > 0 then line.quantity else 1, shipTo := order.shipTo,
        costs, prepFeeRequired := true, status, reasons, originalCostTotal := total,
        updatedAt := at_ })
  return order.lines.length

def applyOrder (account : ChannelAccount) (order : IncomingOrder) (source : IngestSource) :
    Script OrderOutcome := do
  let customerId ← resolveCustomer account order
  let fresh ← freshId
  let at_ ← now
  let stored ← perform (.upsertOrder
    { id := fresh, sellerId := account.sellerId, accountId := account.id,
      marketplace := account.marketplace, marketplaceId := order.marketplaceId,
      fulfillmentChannel := order.fulfillmentChannel, source,
      externalOrderId := order.externalOrderId, status := order.status,
      currency := order.currency, totals := order.totals, customerId,
      placedAt := order.placedAt, closedAt := order.closedAt, raw := order.raw, syncedAt := at_ })
  for line in order.lines do
    let itemId ← resolveLineItem account line
    let fresh ← freshId
    let _ ← perform (.upsertLine
      { id := fresh, orderId := stored.id, externalLineId := line.externalLineId, itemId,
        sku := line.sku, title := line.title, quantity := line.quantity, price := line.price,
        tax := line.tax, discounts := line.discounts,
        fulfillmentStatus := line.fulfillmentStatus })
  let auditLines ← projectAudit account stored order source
  return ⟨stored.id, stored.externalOrderId, customerId, order.lines.length, auditLines⟩

def applyRawOrders (account : ChannelAccount) (orders : List RawOrder) (source : IngestSource) :
    Script BatchSummary := do
  let mut summary : BatchSummary := {}
  for raw in orders do
    match raw.translate with
    | .error _ => summary := { summary with skipped := summary.skipped + 1 }
    | .ok order =>
      let applied ← MonadExcept.tryCatch (do let _ ← applyOrder account order source; pure true)
        fun _ => pure false
      if applied then summary := { summary with applied := summary.applied + 1 }
      else summary := { summary with skipped := summary.skipped + 1 }
  return summary

def applyProduct (account : ChannelAccount) (product : IncomingProduct) :
    Script ProductOutcome := do
  let mut outcome : ProductOutcome := {}
  for v in product.variants do
    match v.sku with
    | none => outcome := { outcome with skipped := outcome.skipped + 1 }
    | some sku =>
      let fresh ← freshId
      let at_ ← now
      let item ← perform (.upsertItem account.sellerId sku v.title fresh at_)
      let link : NewItemLink :=
        { itemId := item.id, externalItemId := product.externalItemId,
          externalVariantId := v.externalVariantId, inventoryItemId := v.inventoryItemId, sku,
          active := product.active, raw := v.raw }
      let fresh ← freshId
      let at_ ← now
      let _ ← perform (.upsertItemLink account link fresh at_)
      outcome := { outcome with variants := outcome.variants + 1 }
  return outcome

def applyStock (account : ChannelAccount) (stock : IncomingStock) :
    Script (Option StockLevel) := do
  let itemId? : Option Uuid ← match stock.externalVariantId, stock.sku with
    | some ext, _ =>
      match ← perform (.findItemLink account.id ext) with
      | none => pure none
      | some m =>
        let at_ ← now
        perform (.touchItemLink m.id at_)
        pure (some m.itemId)
    | none, some sku => do
      let fresh ← freshId
      let at_ ← now
      let item ← perform (.upsertItem account.sellerId sku (stock.title.getD sku) fresh at_)
      let link : NewItemLink :=
        { itemId := item.id, externalItemId := sku, externalVariantId := none,
          inventoryItemId := none, sku, active := true, raw := stock.raw }
      let fresh ← freshId
      let at_ ← now
      let _ ← perform (.upsertItemLink account link fresh at_)
      pure (some item.id)
    | none, none => pure none
  let some itemId := itemId? | return none
  let some available := stock.available | return none
  let fresh ← freshId
  let at_ ← now
  some <$> perform (.upsertStock itemId account.id stock.locationId available fresh at_)

def recordLabel (account : ChannelAccount) (input : LabelInput) : Script ShippingLabel := do
  let fresh ← freshId
  let label ← perform (.upsertLabel
    { id := fresh, sellerId := account.sellerId, accountId := account.id,
      marketplace := account.marketplace, orderId := input.orderId, shipmentId := input.shipmentId,
      labelFormat := input.labelFormat, downloadUrl := input.downloadUrl,
      document := input.document, mimeType := input.mimeType, expiresAt := input.expiresAt,
      raw := input.raw })
  if let some orderId := label.orderId then
    for line in ← perform (.auditForOrder orderId) do
      let (status, reasons) := Quality.assess line.shipTo true
      let at_ ← now
      let _ ← perform (.upsertAudit { line with status, reasons, updatedAt := at_ })
  return label

end Script

end SellerSync
