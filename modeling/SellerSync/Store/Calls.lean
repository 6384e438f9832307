import SellerSync.Store.Catalog
import SellerSync.Store.Customers
import SellerSync.Store.Orders
/-! The calls an ingestion or the recording of a label makes on the store, as data: the store
serves one at a time, so each is an atomic step. -/
namespace SellerSync

namespace Store

/-- A call on the store that an ingestion or the recording of a label makes. -/
inductive Call where
  | resolveCustomer (seller account : Uuid) (externalId : Option String)
      (cand : CustomerCandidate) (fresh : Uuid) (now : Instant)
  | upsertCustomerLink (account : ChannelAccount) (customer : Uuid) (externalId : String)
      (raw : Json) (fresh : Uuid) (now : Instant)
  | upsertOrder (o : StoredOrder)
  | findItemLink (account : Uuid) (externalId : String)
  | touchItemLink (id : Uuid) (now : Instant)
  | upsertItem (seller : Uuid) (sku title : String) (fresh : Uuid) (now : Instant)
  | upsertItemLink (account : ChannelAccount) (link : NewItemLink) (fresh : Uuid) (now : Instant)
  | upsertLine (l : StoredLine)
  | hasLabelForOrder (order : Uuid)
  | upsertAudit (a : AuditLine)
  | upsertStock (item account : Uuid) (location : Option String) (available : Int) (fresh : Uuid)
      (now : Instant)
  | upsertLabel (l : ShippingLabel)
  | auditForOrder (order : Uuid)

namespace Call

@[reducible] def Result : Call → Type
  | resolveCustomer .. => Uuid
  | upsertCustomerLink .. => CustomerLink
  | upsertOrder _ => StoredOrder
  | findItemLink .. => Option ItemLink
  | touchItemLink .. => Unit
  | upsertItem .. => CatalogItem
  | upsertItemLink .. => ItemLink
  | upsertLine _ => StoredLine
  | hasLabelForOrder _ => Bool
  | upsertAudit _ => AuditLine
  | upsertStock .. => StockLevel
  | upsertLabel _ => ShippingLabel
  | auditForOrder _ => List AuditLine

/-- The call made on a store: its answer and the store after it. -/
def run : (c : Call) → Store → c.Result × Store
  | resolveCustomer seller account ext cand fresh now, s =>
    s.resolveCustomer seller account ext cand fresh now
  | upsertCustomerLink account customer ext raw fresh now, s =>
    s.upsertCustomerLink account customer ext raw fresh now
  | upsertOrder o, s => s.upsertOrder o
  | findItemLink account ext, s => (s.findItemLink account ext, s)
  | touchItemLink id now, s => ((), s.touchItemLink id now)
  | upsertItem seller sku title fresh now, s => s.upsertItem seller sku title fresh now
  | upsertItemLink account link fresh now, s => s.upsertItemLink account link fresh now
  | upsertLine l, s => s.upsertLine l
  | hasLabelForOrder order, s => (s.hasLabelForOrder order, s)
  | upsertAudit a, s => s.upsertAudit a
  | upsertStock item account location available fresh now, s =>
    s.upsertStock item account location available fresh now
  | upsertLabel l, s => s.upsertLabel l
  | auditForOrder order, s => (s.auditForOrder order, s)

end Call

end Store

end SellerSync
