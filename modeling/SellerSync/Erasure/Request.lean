import SellerSync.Marketplace
import SellerSync.Uuid
import SellerSync.Time.Instant
/-!
Requests to forget an external identity. Each request is kept with its outcome and, when
accounts matched, the number of records removed per kind.
-/
namespace SellerSync

inductive DeletionStatus where
  | pending
  | completed
  | noMatch
  deriving DecidableEq, Repr, Inhabited

def DeletionStatus.name : DeletionStatus → String
  | pending => "pending"
  | completed => "completed"
  | noMatch => "no_match"

structure DeletionRequest where
  id : Uuid
  provider : Marketplace
  externalId : String
  status : DeletionStatus
  detail : Option String
  /-- Removed records per kind, by kind name. -/
  counts : List (String × Nat)
  createdAt : Instant
  completedAt : Option Instant
  deriving Repr, Inhabited

end SellerSync
