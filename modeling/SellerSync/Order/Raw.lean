import SellerSync.Shopify.Order
import SellerSync.Ebay.Order
import SellerSync.Amazon.Order
/-! Order documents of any marketplace, decoded but not yet translated. Decoding checks the shape of
the document; translating then fails only for an order without an id. -/
namespace SellerSync

inductive RawOrder where
  | shopify (doc : Shopify.OrderDoc) (raw : Json)
  | ebay (doc : Ebay.OrderDoc) (raw : Json)
  | amazon (bundle : Amazon.Bundle)
  deriving Repr, Inhabited

namespace RawOrder

/-- Decodes an order document; an Amazon order is read without items. -/
def read (m : Marketplace) (j : Json) : Except SyncError RawOrder :=
  match m with
  | .shopify => (Shopify.OrderDoc.read j).map (shopify · j)
  | .ebay => ((Ebay.OrderDoc.decode j).mapError fun e => .invalidPayload .ebay e.message).map
      (ebay · j)
  | .amazon => (Amazon.Bundle.read j []).map amazon

def readAmazon (order : Json) (items : List Json) : Except SyncError RawOrder :=
  (Amazon.Bundle.read order items).map amazon

def translate : RawOrder → Except SyncError IncomingOrder
  | shopify d raw => d.translate raw
  | ebay d raw => d.translate raw
  | amazon b => b.translate

/-- Decodes a stock observation: a storefront stock level or an eBay inventory item. Amazon stock
is only ever sent, never taken in. -/
def readStock (m : Marketplace) (j : Json) : Except SyncError IncomingStock :=
  match m with
  | .shopify => Shopify.translateLevel j
  | .ebay => Ebay.translateItem j
  | .amazon => .error (.invalidPayload .amazon "inventory ingestion is not supported")

end RawOrder

end SellerSync
