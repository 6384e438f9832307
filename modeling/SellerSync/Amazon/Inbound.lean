import SellerSync.Amazon.Requests
import SellerSync.Api.Executor
import SellerSync.Store.Inbound
import SellerSync.Web.Percent
/-! Stock sent into Amazon's warehouses. -/
namespace SellerSync

/-- Fetched box labels with the response they came in. -/
structure LabelsOutcome where
  labels : InboundLabels
  response : ResponseBody
  deriving Repr, Inhabited

namespace Amazon

open SyncM

/-- Asks where the units of a plan should go. -/
def createInboundPlan (account : ChannelAccount) (request : InboundPlanRequest) :
    SyncM ResponseBody := do
  if request.items.isEmpty then fail (.configuration "inbound plan has no items")
  Executor.execute account (ApiRequest.post "/fba/inbound/v0/plans" request.body)

/-- Creates a planned shipment and keeps a record of it. -/
def createInboundShipment (account : ChannelAccount) (request : InboundShipmentRequest) :
    SyncM InboundShipment := do
  let shipmentId := Text.trim request.shipmentId
  if shipmentId.isEmpty || (Text.trim request.destinationFulfillmentCenterId).isEmpty then
    fail (.configuration "shipmentId and destinationFulfillmentCenterId are required")
  if request.items.isEmpty then fail (.configuration "inbound shipment has no items")
  let labelPrep := request.labelPrepPreference.getD defaultLabelPrep
  let name := request.shipmentName.getD ("Inbound " ++ shipmentId)
  let response ← Executor.execute account
    (ApiRequest.post ("/fba/inbound/v0/shipments/" ++ Percent.encodeComponent shipmentId)
      (request.body shipmentId labelPrep name))
  let at_ ← now
  let id ← freshId
  let stamp ← now
  onStore (·.upsertInbound
    { id, sellerId := account.sellerId, accountId := account.id,
      marketplaceId := account.marketplaceIds.head?, shipmentId,
      destinationCenterId := request.destinationFulfillmentCenterId,
      labelPrepPreference := labelPrep, shipmentName := name,
      items := request.items.map fun item =>
        ⟨item.sellerSku, item.quantityShipped, item.quantityInCase, item.prepDetailsList⟩,
      labels := none, rawShipment := response.toJson, createdAt := at_, updatedAt := at_ } stamp)

/-- Where a labels response says the document is. -/
def labelUrl (body : Json) : Option String :=
  let payload := body.get? "payload"
  let transport := (payload.bind (·.get? "TransportDocument")).bind (·.get? "PdfDocument")
  let found := (transport.or (payload.bind (·.get? "DownloadURL"))).or (body.get? "DownloadURL")
  match found with
  | some (.str url) => if url.isEmpty then none else some url
  | _ => none

/-- Fetches the box labels of a shipment. -/
def fetchInboundLabels (account : ChannelAccount) (shipmentId : String) (request : LabelRequest) :
    SyncM LabelsOutcome := do
  let pageType := request.pageType.getD defaultPageType
  let req := (ApiRequest.get ("/fba/inbound/v0/shipments/" ++ Percent.encodeComponent shipmentId ++
    "/labels")).withQuery "PageType" pageType
  let req := match request.labelType with
    | some t => req.withQuery "LabelType" t
    | none => req
  let req := match request.numberOfPackages with
    | some n => req.withQuery "NumberOfPackages" (toString n)
    | none => req
  let response ← Executor.execute account req
  let labels : InboundLabels :=
    ⟨response.asJson?.bind labelUrl, pageType, request.labelType, ← now⟩
  let stamp ← now
  match (← store).recordInboundLabels account.id shipmentId labels stamp with
  | some (_, st) => setStore st
  | none => pure ()
  return ⟨labels, response⟩

end Amazon

end SellerSync
