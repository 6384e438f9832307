import SellerSync.Session.Records
/-! The whole state of a session as one answer, account by account and seller by seller. -/
namespace SellerSync

namespace SessionOps

open SessionM

def rankKey (l : Labels) (u : Uuid) : Nat := (l.rank? u).getD l.entries.length

def stockOrder (l : Labels) (xs : List StockLevel) : List StockLevel :=
  xs.mergeSort fun a b =>
    let ra := rankKey l a.itemId
    let rb := rankKey l b.itemId
    if ra == rb then optTextLe a.locationId b.locationId else decide (ra < rb)

def accountEntry (ref : String) (bound : ChannelAccount) : SessionM Json := do
  let s ← store
  let start ← origin
  let id := bound.id
  let orders := (s.ordersForAccount id).mergeSort fun a b => decide (a.externalOrderId ≤ b.externalOrderId)
  let refPart ← name (.str ref)
  let accountPart ← name (.opt (View.account start) (s.account? id))
  let ordersPart ← name (.arr (orders.map fun o => orderView s o.id))
  let linksPart ← name (.arr ((linkOrder (s.itemLinksForAccount id)).map View.itemLink))
  let stock := stockOrder (← get).labels (s.stockForAccount id)
  let stockPart ← name (.arr (stock.map View.stock))
  let inbound := ((← get).shipments.filter (·.1 == id)).filterMap fun (_, sid) => s.inbound? id sid
  let inboundPart ← name (.arr (inbound.map (View.inbound start)))
  return Json.object [("ref", refPart), ("account", accountPart), ("orders", ordersPart),
    ("item_mappings", linksPart), ("inventory", stockPart), ("inbound_shipments", inboundPart)]

def sellerSkus (s : Store) (seller : Uuid) : List String :=
  let orderIds := (s.orders.filter (·.sellerId == seller)).map (·.id)
  let fromLines := (s.lines.filter fun l => orderIds.contains l.orderId).filterMap (·.sku)
  let itemIds := (s.items.filter (·.sellerId == seller)).map (·.id)
  let fromLinks := (s.itemLinks.filter fun m => itemIds.contains m.itemId).map (·.sku)
  fromLines ++ fromLinks

def sellerEntry (sellerName : String) (id : Uuid) : SessionM Json := do
  let s ← store
  let l := (← get).labels
  let customers := (s.customersForSeller id).mergeSort fun a b =>
    decide (rankKey l a.id ≤ rankKey l b.id)
  let skus := sellerSkus s id
  let items := ((s.items.filter fun i => i.sellerId == id && skus.contains i.sku).mergeSort
    fun a b => decide (a.sku ≤ b.sku))
  let sellerPart ← name (.str sellerName)
  let customersPart ← name (.arr (customers.map View.customer))
  let itemsPart ← name (.arr (items.map View.item))
  return Json.object [("seller", sellerPart), ("customers", customersPart), ("items", itemsPart)]

def state : SessionM Json := do
  let sess ← get
  let accounts ← sess.refs.mapM fun (ref, a) => accountEntry ref a
  let sellers ← sess.sellers.mapM fun (n, id) => sellerEntry n id
  let s ← store
  let deletions ← name (.arr (s.deletions.map View.deletion))
  return Json.object [("accounts", .arr accounts), ("sellers", .arr sellers),
    ("deletion_requests", deletions), ("quote_count", .ofNat s.quotes.length)]

end SessionOps

end SellerSync
