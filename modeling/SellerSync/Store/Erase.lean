import SellerSync.Store.Basic
/-! Forgetting an external identity. -/
namespace SellerSync

/-- What an erasure did: the removed records per kind, or the reason nothing was removed. -/
structure ErasureOutcome where
  deleted : Bool
  counts : Option (List (String × Nat))
  reason : Option String
  deriving Repr, Inhabited

namespace Store

/-- Adds `n` to the count of `key`. -/
def bump (counts : List (String × Nat)) (key : String) (n : Nat) : List (String × Nat) :=
  if counts.any (·.1 == key) then counts.map fun (k, v) => if k == key then (k, v + n) else (k, v)
  else counts ++ [(key, n)]

/-- Removes one account and what belongs to it, counting per kind. -/
def eraseAccount (s : Store) (account : Uuid) (counts : List (String × Nat)) :
    Store × List (String × Nat) :=
  let orderIds := (s.orders.filter (·.accountId == account)).map (·.id)
  let lines := s.lines.filter fun l => !orderIds.contains l.orderId
  let labels := s.labels.filter fun l =>
    l.accountId != account && !(l.orderId.any fun o => orderIds.contains o)
  let audit := s.audit.filter (·.accountId != account)
  let stock := s.stock.filter (·.accountId != account)
  let inbound := s.inbound.filter (·.accountId != account)
  let itemLinks := s.itemLinks.filter (·.accountId != account)
  let customerLinks := s.customerLinks.filter (·.accountId != account)
  let orders := s.orders.filter (·.accountId != account)
  let accounts := s.accounts.filter (·.id != account)
  let counts := bump counts "orderLines" (s.lines.length - lines.length)
  let counts := bump counts "labels" (s.labels.length - labels.length)
  let counts := bump counts "audit" (s.audit.length - audit.length)
  let counts := bump counts "inventory" (s.stock.length - stock.length)
  let counts := bump counts "inboundShipments" (s.inbound.length - inbound.length)
  let counts := bump counts "items" (s.itemLinks.length - itemLinks.length)
  let counts := bump counts "customers" (s.customerLinks.length - customerLinks.length)
  let counts := bump counts "orders" (s.orders.length - orders.length)
  let counts := bump counts "channelAccounts" (s.accounts.length - accounts.length)
  ({ s with lines, labels, audit, stock, inbound, itemLinks, customerLinks, orders, accounts },
    counts)

/-- Erases every account of `marketplace` known by the trimmed `externalId`, and records the
request under the id `fresh`. -/
def eraseIdentity (s : Store) (marketplace : Marketplace) (externalId : String) (fresh : Uuid)
    (now : Instant) : ErasureOutcome × Store :=
  let ext := Text.trim externalId
  let targets := (s.accounts.filter fun a =>
    a.marketplace == marketplace && !ext.isEmpty && a.externalId == some ext).map (·.id)
  if targets.isEmpty then
    let req : DeletionRequest :=
      { id := fresh, provider := marketplace, externalId := ext, status := .noMatch,
        detail := some "no channel account matches the external id", counts := [],
        createdAt := now, completedAt := some now }
    (⟨false, none, some "no_match"⟩, { s with deletions := s.deletions ++ [req] })
  else
    let (s, counts) := targets.foldl (fun (acc : Store × List (String × Nat)) id =>
      eraseAccount acc.1 id acc.2) (s, [])
    let req : DeletionRequest :=
      { id := fresh, provider := marketplace, externalId := ext, status := .completed,
        detail := none, counts, createdAt := now, completedAt := some now }
    (⟨true, some counts, none⟩, { s with deletions := s.deletions ++ [req] })

end Store

end SellerSync
