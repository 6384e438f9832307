import SellerSync.Amazon.Requests
import SellerSync.Api.Executor
import SellerSync.Pipeline
import SellerSync.Web.Percent
/-! Shipping labels bought through Amazon. Every call needs an account that prints labels. -/
namespace SellerSync

/-- A purchased shipment, with its label when the response names the shipment. -/
structure ShipmentOutcome where
  shipmentId : Option String
  label : Option ShippingLabel
  response : ResponseBody
  deriving Repr, Inhabited

namespace Amazon

open SyncM

def ensureLabels (account : ChannelAccount) : SyncM Unit := do
  if !account.flags.labels then
    fail (.configuration ("labels are disabled for account " ++ account.id.toText))

/-- The result inside a response, which may be wrapped in `payload`. -/
def unwrap (body : Json) : Json := (body.get? "payload").getD body

def textOf (j : Option Json) : Option String :=
  match j with
  | some (.str s) => Fields.nonEmpty? s
  | _ => none

/-- What a shipment or documents response says of the label. -/
def labelOf (body : Json) (shipmentId : String) (orderId : Option Uuid) (format : String) :
    LabelInput :=
  let inner := unwrap body
  let docs := match inner.get? "documents" with
    | some d => some d
    | none => inner.get? "packageDocumentDetails"
  let document := match docs with
    | some (.arr (d :: _)) => d
    | _ => .null
  let contents := document.get? "contents"
  { orderId, shipmentId,
    labelFormat := ((textOf (document.get? "format")).or (textOf (document.get? "pageSize"))).getD
      format |> some
    downloadUrl := (textOf (document.get? "downloadUrl")).or (textOf (document.get? "downloadURL"))
    document := textOf (contents.bind (·.get? "data"))
    mimeType := textOf (contents.bind (·.get? "contentType"))
    expiresAt := match document.get? "expiresAt" with
      | some (.str s) => Fields.timestamp? (some s)
      | _ => none
    raw := body }

/-- Rates for a shipment. -/
def getRates (account : ChannelAccount) (request : RatesRequest) : SyncM ResponseBody := do
  ensureLabels account
  Executor.execute account (ApiRequest.post "/shipping/v2/rates" request.body)

/-- Buys a shipment for a rate and stores its label. -/
def createShipment (account : ChannelAccount) (request : ShipmentRequest) :
    SyncM ShipmentOutcome := do
  ensureLabels account
  let response ← Executor.execute account (ApiRequest.post "/shipping/v2/shipments" request.body)
  let json := response.asJson?.getD .null
  let shipmentId := textOf ((unwrap json).get? "shipmentId")
  let label ← match shipmentId with
    | some id => some <$> Pipeline.recordLabel account (labelOf json id request.orderId request.format)
    | none => pure none
  return ⟨shipmentId, label, response⟩

/-- Downloads the label of a shipment again and stores it. -/
def fetchLabel (account : ChannelAccount) (shipmentId : String) (orderId : Option Uuid)
    (format : Option String) : SyncM ShippingLabel := do
  ensureLabels account
  let format := format.getD "PDF"
  let req := ((ApiRequest.get ("/shipping/v2/shipments/" ++ Percent.encodeComponent shipmentId ++
    "/documents")).withQuery "documentType" "LABEL").withQuery "format" format
  let response := (← Executor.execute account req).toJson
  Pipeline.recordLabel account (labelOf response shipmentId orderId format)

end Amazon

end SellerSync
