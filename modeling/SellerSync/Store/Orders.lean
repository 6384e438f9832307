import SellerSync.Store.Basic
/-! Orders and what hangs off them in the store. -/
namespace SellerSync

namespace Store

/-- Writes an order over the one with its account and external id; the stored order keeps the
earlier id. -/
def upsertOrder (s : Store) (o : StoredOrder) : StoredOrder × Store :=
  let o := match s.orders.find? fun e =>
      e.accountId == o.accountId && e.externalOrderId == o.externalOrderId with
    | some e => { o with id := e.id }
    | none => o
  (o, { s with orders := Rows.put (·.id == o.id) o s.orders })

def order? (s : Store) (id : Uuid) : Option StoredOrder := s.orders.find? (·.id == id)

def ordersForAccount (s : Store) (account : Uuid) : List StoredOrder :=
  s.orders.filter (·.accountId == account)

/-- Writes a line over the one with its order and external line id, or appends it. -/
def upsertLine (s : Store) (l : StoredLine) : StoredLine × Store :=
  let slot := l.externalLineId.bind fun ext =>
    s.lines.find? fun e => e.orderId == l.orderId && e.externalLineId == some ext
  match slot with
  | some e =>
    let l := { l with id := e.id }
    (l, { s with lines := Rows.put (·.id == e.id) l s.lines })
  | none => (l, { s with lines := s.lines ++ [l] })

def linesForOrder (s : Store) (order : Uuid) : List StoredLine :=
  s.lines.filter (·.orderId == order)

def upsertStock (s : Store) (item account : Uuid) (location : Option String) (available : Int)
    (fresh : Uuid) (now : Instant) : StockLevel × Store :=
  let id := match s.stock.find? fun e =>
      e.itemId == item && e.accountId == account && e.locationId == location with
    | some e => e.id
    | none => fresh
  let level : StockLevel := ⟨id, item, account, location, available, now⟩
  (level, { s with stock := Rows.put (·.id == id) level s.stock })

def stockForAccount (s : Store) (account : Uuid) : List StockLevel :=
  s.stock.filter (·.accountId == account)

/-- Writes a label over the one with its account and shipment id; a label without an order keeps
the order known before. -/
def upsertLabel (s : Store) (l : ShippingLabel) : ShippingLabel × Store :=
  let l := match s.labels.find? fun e => e.accountId == l.accountId && e.shipmentId == l.shipmentId with
    | some e => { l with id := e.id, orderId := l.orderId.or e.orderId }
    | none => l
  (l, { s with labels := Rows.put (·.id == l.id) l s.labels })

def hasLabelForOrder (s : Store) (order : Uuid) : Bool := s.labels.any (·.orderId == some order)

/-- Writes an audit line over the one with its seller, order id and SKU. -/
def upsertAudit (s : Store) (a : AuditLine) : AuditLine × Store :=
  let a := match s.audit.find? fun e =>
      e.sellerId == a.sellerId && e.orderExternalId == a.orderExternalId && e.sku == a.sku with
    | some e => { a with id := e.id }
    | none => a
  (a, { s with audit := Rows.put (·.id == a.id) a s.audit })

def auditForOrder (s : Store) (order : Uuid) : List AuditLine := s.audit.filter (·.orderId == order)

end Store

end SellerSync
