import SellerSync.Marketplace
import SellerSync.Uuid
import SellerSync.Time.Instant
import SellerSync.Json.Value
/-! The seller's catalog: one item per SKU, and links from items to marketplace listings. -/
namespace SellerSync

structure CatalogItem where
  id : Uuid
  sellerId : Uuid
  sku : String
  title : String
  createdAt : Instant
  updatedAt : Instant
  deriving Repr, Inhabited

/-- A marketplace listing, or one variant of it, that sells a catalog item. -/
structure ItemLink where
  id : Uuid
  itemId : Uuid
  accountId : Uuid
  marketplace : Marketplace
  externalItemId : String
  externalVariantId : Option String
  /-- The storefront's inventory item id, under which stock updates arrive. -/
  inventoryItemId : Option String
  sku : String
  active : Bool
  raw : Json
  syncedAt : Instant
  deriving Repr, Inhabited

/-- What a new link says; the store adds the account and the times. -/
structure NewItemLink where
  itemId : Uuid
  externalItemId : String
  externalVariantId : Option String
  inventoryItemId : Option String
  sku : String
  active : Bool
  raw : Json
  deriving Repr, Inhabited

end SellerSync
