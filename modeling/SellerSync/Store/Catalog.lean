import SellerSync.Store.Basic
/-! Items and listing links in the store. An item is upserted on seller and SKU and takes the latest
title; a link is upserted on account, listing id and variant id. -/
namespace SellerSync

namespace Store

/-- Creates the seller's item for `sku`, or retitles the existing one. -/
def upsertItem (s : Store) (seller : Uuid) (sku title : String) (fresh : Uuid) (now : Instant) :
    CatalogItem × Store :=
  match s.items.find? fun i => i.sellerId == seller && i.sku == sku with
  | some e =>
    let i := { e with title, updatedAt := now }
    (i, { s with items := Rows.put (·.id == i.id) i s.items })
  | none =>
    let i : CatalogItem := ⟨fresh, seller, sku, title, now, now⟩
    (i, { s with items := s.items ++ [i] })

def itemBySku? (s : Store) (seller : Uuid) (sku : String) : Option CatalogItem :=
  s.items.find? fun i => i.sellerId == seller && i.sku == sku

/-- Writes a link over the one with the same account, listing id and variant id. -/
def upsertItemLink (s : Store) (account : ChannelAccount) (link : NewItemLink) (fresh : Uuid)
    (now : Instant) : ItemLink × Store :=
  let id := match s.itemLinks.find? fun m =>
      m.accountId == account.id && m.externalItemId == link.externalItemId &&
        m.externalVariantId == link.externalVariantId with
    | some e => e.id
    | none => fresh
  let m : ItemLink :=
    { id, itemId := link.itemId, accountId := account.id, marketplace := account.marketplace,
      externalItemId := link.externalItemId, externalVariantId := link.externalVariantId,
      inventoryItemId := link.inventoryItemId, sku := link.sku, active := link.active,
      raw := link.raw, syncedAt := now }
  (m, { s with itemLinks := Rows.put (·.id == id) m s.itemLinks })

/-- The account's link for a listing id: by variant id, then inventory item id, then a link for
the whole listing. -/
def findItemLink (s : Store) (account : Uuid) (externalId : String) : Option ItemLink :=
  let own := s.itemLinks.filter (·.accountId == account)
  (own.find? (·.externalVariantId == some externalId)).or <|
    (own.find? (·.inventoryItemId == some externalId)).or <|
      own.find? fun m => m.externalVariantId.isNone && m.externalItemId == externalId

def touchItemLink (s : Store) (id : Uuid) (now : Instant) : Store :=
  { s with itemLinks := s.itemLinks.map fun m => if m.id == id then { m with syncedAt := now } else m }

def itemLinksForAccount (s : Store) (account : Uuid) : List ItemLink :=
  s.itemLinks.filter (·.accountId == account)

end Store

end SellerSync
