import SellerSync.Session.Basic
/-! Session operations on orders, products, stock, labels, webhook deliveries and erasure. -/
namespace SellerSync

namespace SessionOps

open SessionM

def optTextLe : Option String → Option String → Bool
  | none, _ => true
  | some _, none => false
  | some a, some b => decide (a ≤ b)

def auditOrder (xs : List AuditLine) : List AuditLine := xs.mergeSort fun a b => optTextLe a.sku b.sku

def linkOrder (xs : List ItemLink) : List ItemLink :=
  xs.mergeSort fun a b =>
    if a.externalItemId == b.externalItemId then optTextLe a.externalVariantId b.externalVariantId
    else decide (a.externalItemId ≤ b.externalItemId)

def orderView (s : Store) (id : Uuid) : Json :=
  Json.object [("order", .opt View.order (s.order? id)),
    ("lines", .arr ((s.linesForOrder id).map View.line)),
    ("audit", .arr ((auditOrder (s.auditForOrder id)).map View.audit))]

def readSource (req : Json) : SessionM IngestSource := do
  match Field.get req "source" with
  | .null | .str "poll" => return .poll
  | .str "webhook" => return .webhook
  | _ => bad "source must be poll or webhook"

def itemsOf (j : Json) : SessionM (List Json) :=
  match j with
  | .arr xs => pure xs
  | .null => pure []
  | _ => bad "items must be an array"

def marketplaceOr (req : Json) (k : String) (account : ChannelAccount) : SessionM Marketplace := do
  match Field.get req k with
  | .null => return account.marketplace
  | _ => field (Field.marketplace req k)

def applyOrder (req : Json) : SessionM Json := do
  let account ← SessionM.account req
  let m ← marketplaceOr req "marketplace" account
  let payload := Field.get req "payload"
  let raw ← match m with
    | .amazon => do sync (SyncM.expect (RawOrder.readAmazon payload (← itemsOf (Field.get req "items"))))
    | _ => sync (SyncM.expect (RawOrder.read m payload))
  let order ← sync (SyncM.expect raw.translate)
  let source ← readSource req
  let outcome ← sync (Pipeline.applyOrder account order source)
  return Json.object [("outcome", View.orderOutcome outcome),
    ("stored", orderView (← store) outcome.orderId)]

def applyRawOrders (req : Json) : SessionM Json := do
  let account ← SessionM.account req
  let source ← readSource req
  let docs ← field (Field.array req "orders")
  let mut raws : List RawOrder := []
  let mut errors : List Json := []
  for (doc, i) in docs.zipIdx do
    let read ← match account.marketplace with
      | .amazon => do pure (RawOrder.readAmazon (Field.get doc "order") (← itemsOf (Field.get doc "items")))
      | m => pure (RawOrder.read m doc)
    match read with
    | .ok r => raws := raws ++ [r]
    | .error e => errors := errors ++ [Json.object [("index", .ofNat i), ("error", .str e.message)]]
  let summary ← sync (Pipeline.applyRawOrders account raws source)
  return Json.object [("summary", View.batch summary), ("decode_errors", .arr errors)]

def applyProduct (req : Json) : SessionM Json := do
  let account ← SessionM.account req
  let product ← sync (SyncM.expect (Shopify.translateProduct (Field.get req "payload")))
  let outcome ← sync (Pipeline.applyProduct account product)
  return Json.object [("outcome", View.productOutcome outcome),
    ("item_mappings", .arr ((linkOrder ((← store).itemLinksForAccount account.id)).map View.itemLink))]

def applyInventory (req : Json) : SessionM Json := do
  let account ← SessionM.account req
  let m ← marketplaceOr req "marketplace" account
  let stock ← sync (SyncM.expect (RawOrder.readStock m (Field.get req "payload")))
  let level ← sync (Pipeline.applyStock account stock)
  return Json.object [("level", .opt View.stock level)]

def idField (req : Json) (k : String) : SessionM (Option String) :=
  match Field.get req k with
  | .null => pure none
  | .str s => pure (some s)
  | .num n => pure (some n.render)
  | _ => bad (k ++ " must be a string")

def orderRef (req : Json) (account : ChannelAccount) : SessionM (Option Uuid) := do
  match ← idField req "order" with
  | some ext =>
    let owner ← match Field.get req "order_account" with
      | .null => pure account.id
      | _ => accountRef (← field (Field.str req "order_account"))
    match (← store).orders.find? fun o => o.accountId == owner && o.externalOrderId == ext with
    | some o => return some o.id
    | none => bad ("no order " ++ ext)
  | none =>
    match ← field (Field.optStr req "order_uuid") with
    | some text =>
      match Uuid.parse text with
      | .ok u => return some u
      | .error e => bad e.message
    | none => return none

def auditOf (orderId : Option Uuid) : SessionM Json := do
  match orderId with
  | some id => return .arr ((auditOrder ((← store).auditForOrder id)).map View.audit)
  | none => return .arr []

def recordLabel (req : Json) : SessionM Json := do
  let account ← SessionM.account req
  let orderId ← orderRef req account
  let input : LabelInput :=
    { orderId, shipmentId := ← field (Field.str req "shipment_id"),
      labelFormat := ← field (Field.optStr req "label_format"),
      downloadUrl := ← field (Field.optStr req "download_url"),
      document := ← field (Field.optStr req "document"),
      mimeType := ← field (Field.optStr req "mime_type"),
      expiresAt := ← optTime req "expires_at", raw := Field.get req "raw" }
  let label ← sync (Pipeline.recordLabel account input)
  return Json.object [("label", View.label label), ("audit", ← auditOf label.orderId)]

def hasLabel (req : Json) : SessionM Json := do
  let account ← SessionM.account req
  let orderId ← orderRef req account
  let st ← store
  let value := match orderId with
    | some id => st.hasLabelForOrder id
    | none => false
  return Json.object [("value", .bool value)]

def itemBySku (req : Json) : SessionM Json := do
  let sellerId ← seller (← field (Field.str req "seller"))
  let sku ← field (Field.str req "sku")
  return .opt View.item ((← store).itemBySku? sellerId sku)

def webhookEvent (req : Json) : SessionM WebhookEvent := do
  return { marketplace := ← field (Field.marketplace req "marketplace"),
           topic := ← field (Field.str req "topic"),
           accountHint := ← field (Field.optStr req "account_hint"),
           payload := Field.get req "payload" }

def ingestWebhook (req : Json) : SessionM Json := do
  let event ← webhookEvent req
  let outcome ← sync (Ingest.deliver event)
  match outcome with
  | .order orderId _ =>
    return Json.object [("outcome", View.ingest outcome), ("stored", orderView (← store) orderId)]
  | _ => return Json.object [("outcome", View.ingest outcome)]

def queueWebhook (req : Json) : SessionM Json := do
  let event ← webhookEvent req
  return View.job (← sync (IngestQueue.queueAndWait event))

def erase (req : Json) : SessionM Json := do
  let m ← field (Field.marketplace req "marketplace")
  let ext ← field (Field.str req "external_id")
  let outcome ← sync do
    let fresh ← SyncM.freshId
    let at_ ← SyncM.now
    SyncM.onStore (·.eraseIdentity m ext fresh at_)
  return View.erasure outcome

def deletionRequests : SessionM Json := do
  return .arr ((← store).deletions.map View.deletion)

end SessionOps

end SellerSync
