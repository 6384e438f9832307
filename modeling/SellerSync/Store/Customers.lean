import SellerSync.Store.Basic
/-! Customers in the store. -/
namespace SellerSync

namespace Store

/-- The customer an order's contact details resolve to, created when none matches. -/
def resolveCustomer (s : Store) (seller account : Uuid) (externalId : Option String)
    (cand : CustomerCandidate) (fresh : Uuid) (now : Instant) : Uuid × Store :=
  let byContact := Rows.earliest (fun a b => Instant.lt a.createdAt b.createdAt)
    (s.customers.filter fun c => c.sellerId == seller && cand.sharesContact c)
  let byLink : Option Uuid := externalId.bind fun ext =>
    (s.customerLinks.find? fun m => m.accountId == account && m.externalId == ext).bind fun m =>
      if s.customers.any (·.id == m.customerId) then some m.customerId else none
  match (byContact.map (·.id)).or byLink with
  | some id =>
    let customers := s.customers.map fun c =>
      match cand.address with
      | some addr =>
        if c.id == id && !c.addresses.contains addr then
          { c with addresses := c.addresses ++ [addr], updatedAt := now }
        else c
      | none => c
    (id, { s with customers })
  | none =>
    let c : Customer :=
      { id := fresh, sellerId := seller, email := cand.email, phone := cand.phone,
        firstName := cand.firstName, lastName := cand.lastName,
        addresses := cand.address.toList, createdAt := now, updatedAt := now }
    (fresh, { s with customers := s.customers ++ [c] })

/-- Links an external customer id on the account to a customer. -/
def upsertCustomerLink (s : Store) (account : ChannelAccount) (customer : Uuid)
    (externalId : String) (raw : Json) (fresh : Uuid) (now : Instant) : CustomerLink × Store :=
  let id := match s.customerLinks.find? fun m =>
      m.accountId == account.id && m.externalId == externalId with
    | some e => e.id
    | none => fresh
  let m : CustomerLink := ⟨id, customer, account.id, account.marketplace, externalId, raw, now⟩
  (m, { s with customerLinks := Rows.put (·.id == id) m s.customerLinks })

def customersForSeller (s : Store) (seller : Uuid) : List Customer :=
  s.customers.filter (·.sellerId == seller)

end Store

end SellerSync
