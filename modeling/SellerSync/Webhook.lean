import SellerSync.Marketplace
import SellerSync.Codec.Base64
import SellerSync.Crypto.Sha256
import SellerSync.Text.Blank
/-! Webhook deliveries: which record a topic carries, and whether a storefront delivery is signed with
the shared secret. -/
namespace SellerSync

inductive WebhookKind where
  | order
  | product
  | inventory
  deriving DecidableEq, Repr, Inhabited

namespace WebhookKind

def name : WebhookKind → String
  | order => "order"
  | product => "product"
  | inventory => "inventory"

/-- The record a storefront topic carries. -/
def ofShopifyTopic (topic : String) : Option WebhookKind :=
  if topic = "products/create" ∨ topic = "products/update" then some product
  else if topic = "inventory_levels/update" then some inventory
  else if topic = "orders/create" ∨ topic = "orders/updated" then some order
  else none

/-- The record an eBay topic family carries. -/
def ofEbayTopic (topic : String) : Option WebhookKind :=
  let t := String.ofList ((Text.trim topic).toList.map Char.toLower)
  if t = "order" ∨ t = "orders" then some order
  else if t = "inventory" ∨ t = "inventory_item" then some inventory
  else none

def ofTopic? : Marketplace → String → Option (Option WebhookKind)
  | .shopify, t => some (ofShopifyTopic t)
  | .ebay, t => some (ofEbayTopic t)
  | .amazon, _ => none

end WebhookKind

namespace Webhook

/-- Whether `signature` is the HMAC-SHA256 of `body` under `secret`. -/
def verify (secret : String) (body : List UInt8) (signature : String) : Bool :=
  match Base64.decodeStrict (Text.trim signature) with
  | some expected => expected == Sha256.hmac secret.toUTF8.toList body
  | none => false

end Webhook

end SellerSync
