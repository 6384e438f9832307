import SellerSync.Session.Records
/-!
Session operations on Amazon's outbound, shipping and inbound services. Requests are read as
the services name their fields; one that does not read fails as a decode failure.
-/
namespace SellerSync

namespace SessionOps

open SessionM

def decodeField (d : Decoder α) (j : Json) : SessionM α :=
  match d j with
  | .ok a => pure a
  | .error e => throw (.decode e.message)

def pushInventory (req : Json) : SessionM Json := do
  let account ← SessionM.account req
  let updates ← decodeField (Decode.list Amazon.InventoryUpdate.decode) (Field.get req "updates")
  return View.pushReport (← sync (Amazon.pushInventory account updates))

def fulfillmentOrder (req : Json) : SessionM Json := do
  let account ← SessionM.account req
  let request ← decodeField Amazon.FulfillmentOrderRequest.decode (Field.get req "request")
  return View.response (← sync (Amazon.createFulfillmentOrder account request))

def getRates (req : Json) : SessionM Json := do
  let account ← SessionM.account req
  let request ← decodeField Amazon.RatesRequest.decode (Field.get req "request")
  return View.response (← sync (Amazon.getRates account request))

def withOrder (request : Json) (orderId : Option Uuid) : Json :=
  match orderId, request with
  | some id, .obj fs => Json.object (fs ++ [("orderId", .str id.toText)])
  | _, j => j

def createShipment (req : Json) : SessionM Json := do
  let account ← SessionM.account req
  let orderId ← orderRef req account
  let request ← decodeField Amazon.ShipmentRequest.decode (withOrder (Field.get req "request") orderId)
  let outcome ← sync (Amazon.createShipment account request)
  return Json.object [("shipment_id", .optStr outcome.shipmentId),
    ("label", .opt View.label outcome.label), ("response", View.response outcome.response),
    ("audit", ← auditOf request.orderId)]

def fetchLabel (req : Json) : SessionM Json := do
  let account ← SessionM.account req
  let shipmentId ← field (Field.str req "shipment_id")
  let orderId ← orderRef req account
  let format ← field (Field.optStr req "format")
  return View.label (← sync (Amazon.fetchLabel account shipmentId orderId format))

def inboundPlan (req : Json) : SessionM Json := do
  let account ← SessionM.account req
  let request ← decodeField Amazon.InboundPlanRequest.decode (Field.get req "request")
  return View.response (← sync (Amazon.createInboundPlan account request))

def inboundShipment (req : Json) : SessionM Json := do
  let account ← SessionM.account req
  let request ← decodeField Amazon.InboundShipmentRequest.decode (Field.get req "request")
  let shipment ← sync (Amazon.createInboundShipment account request)
  modify fun s =>
    if s.shipments.contains (account.id, shipment.shipmentId) then s
    else { s with shipments := s.shipments ++ [(account.id, shipment.shipmentId)] }
  return View.inbound (← origin) shipment

def inboundLabels (req : Json) : SessionM Json := do
  let account ← SessionM.account req
  let shipmentId ← field (Field.str req "shipment_id")
  let request ← match Field.get req "request" with
    | .null => pure {}
    | j => decodeField Amazon.LabelRequest.decode j
  let outcome ← sync (Amazon.fetchInboundLabels account shipmentId request)
  return Json.object [("labels", View.inboundLabels (← origin) outcome.labels),
    ("response", View.response outcome.response)]

def getInbound (req : Json) : SessionM Json := do
  let account ← SessionM.account req
  let shipmentId ← field (Field.str req "shipment_id")
  return .opt (View.inbound (← origin)) ((← store).inbound? account.id shipmentId)

end SessionOps

end SellerSync
