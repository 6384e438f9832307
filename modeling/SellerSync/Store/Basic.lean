import SellerSync.Account
import SellerSync.Catalog
import SellerSync.Customer
import SellerSync.Order.Stored
import SellerSync.Inbound.Shipment
import SellerSync.Rates.Quote
import SellerSync.Erasure.Request
/-! The canonical store: one table per kind of record, each a list in the order rows were first
written. -/
namespace SellerSync

structure Store where
  accounts : List ChannelAccount := []
  items : List CatalogItem := []
  itemLinks : List ItemLink := []
  customers : List Customer := []
  customerLinks : List CustomerLink := []
  orders : List StoredOrder := []
  lines : List StoredLine := []
  stock : List StockLevel := []
  labels : List ShippingLabel := []
  audit : List AuditLine := []
  quotes : List CachedQuote := []
  deletions : List DeletionRequest := []
  inbound : List InboundShipment := []
  deriving Inhabited

namespace Rows

def put (p : α → Bool) (x : α) : List α → List α
  | [] => [x]
  | y :: ys => if p y then x :: ys else y :: put p x ys

theorem mem_put (p : α → Bool) (x : α) (l : List α) : x ∈ put p x l := by
  induction l with
  | nil => simp [put]
  | cons y ys ih => unfold put; split <;> simp [ih]

theorem put_of_none (p : α → Bool) (x : α) (l : List α) (h : l.find? p = none) :
    put p x l = l ++ [x] := by
  induction l with
  | nil => rfl
  | cons y ys ih =>
    simp only [List.find?_cons] at h
    split at h
    · contradiction
    · rename_i hy; simp [put, hy, ih h]

def modifyFirst (p : α → Bool) (f : α → α) : List α → Option (List α)
  | [] => none
  | y :: ys => if p y then some (f y :: ys) else (modifyFirst p f ys).map (y :: ·)

def latest (before : α → α → Bool) : List α → Option α
  | [] => none
  | x :: xs =>
    some (xs.foldl (fun best y => if before y best then best else y) x)

def earliest (before : α → α → Bool) : List α → Option α
  | [] => none
  | x :: xs => some (xs.foldl (fun best y => if before y best then y else best) x)

end Rows

end SellerSync
