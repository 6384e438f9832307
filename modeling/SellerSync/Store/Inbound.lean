import SellerSync.Store.Basic
/-!
Inbound shipments in the store, upserted on account and shipment id. A shipment written again
keeps its id, creation time and the labels fetched before.
-/
namespace SellerSync

namespace Store

def upsertInbound (s : Store) (x : InboundShipment) (now : Instant) : InboundShipment × Store :=
  let x := match s.inbound.find? fun e => e.accountId == x.accountId && e.shipmentId == x.shipmentId with
    | some e => { x with id := e.id, createdAt := e.createdAt, labels := x.labels.or e.labels }
    | none => x
  let x := { x with updatedAt := now }
  (x, { s with inbound := Rows.put (·.id == x.id) x s.inbound })

def inbound? (s : Store) (account : Uuid) (shipmentId : String) : Option InboundShipment :=
  s.inbound.find? fun e => e.accountId == account && e.shipmentId == shipmentId

/-- Attaches labels to a shipment made through this service; none when there is no such
shipment. -/
def recordInboundLabels (s : Store) (account : Uuid) (shipmentId : String) (labels : InboundLabels)
    (now : Instant) : Option (InboundShipment × Store) :=
  (s.inbound? account shipmentId).map fun e =>
    let x := { e with labels := some labels, updatedAt := now }
    (x, { s with inbound := Rows.put (·.id == x.id) x s.inbound })

end Store

end SellerSync
