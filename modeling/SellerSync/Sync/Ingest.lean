import SellerSync.Sync.Pull
import SellerSync.Webhook
import SellerSync.Auth.Consent
/-! Webhook deliveries whose signature has been checked. -/
namespace SellerSync

/-- A webhook delivery. -/
structure WebhookEvent where
  marketplace : Marketplace
  topic : String
  /-- Shop domain, seller name or selling partner id of the sender. -/
  accountHint : Option String
  payload : Json
  deriving Repr, Inhabited

/-- What a delivery did. -/
inductive IngestOutcome where
  | ignored (reason : String)
  | order (orderId : Uuid) (lines : Nat)
  | product (variants skipped : Nat)
  | inventory (applied : Bool)
  deriving Repr, Inhabited

namespace Ingest

open SyncM

/-- The account a delivery comes from. -/
def sender (marketplace : Marketplace) (hint : Option String) : SyncM ChannelAccount := do
  let some hint := (hint.map Text.trim).filter (!·.isEmpty) |
    fail (.configuration "webhook does not identify the sending account")
  let externalId := match marketplace with
    | .shopify => (Consent.shopDomain? hint).getD hint
    | _ => hint
  match (← store).findAccount marketplace externalId with
  | some a => return a
  | none => fail (.notFound "channel account" externalId)

/-- Routes a delivery into the pipeline. -/
def deliver (event : WebhookEvent) : SyncM IngestOutcome := do
  let some kind := (WebhookKind.ofTopic? event.marketplace event.topic).join |
    return .ignored ("unrouted topic " ++ event.topic)
  let account ← sender event.marketplace event.accountHint
  if !account.isActive then return .ignored "account inactive"
  match kind with
  | .order =>
    if !account.flags.ordersIn then return .ignored "order ingestion disabled"
    let order ← expect ((RawOrder.read event.marketplace event.payload).bind RawOrder.translate)
    let outcome ← Pipeline.applyOrder account order .webhook
    return .order outcome.orderId outcome.lines
  | .product =>
    let product ← expect (Shopify.translateProduct event.payload)
    let outcome ← Pipeline.applyProduct account product
    return .product outcome.variants outcome.skipped
  | .inventory =>
    let stock ← expect (RawOrder.readStock event.marketplace event.payload)
    return .inventory (← Pipeline.applyStock account stock).isSome

end Ingest

end SellerSync
