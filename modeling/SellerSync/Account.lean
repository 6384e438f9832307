import SellerSync.Marketplace
import SellerSync.Uuid
import SellerSync.Time.Instant
/-! Connected marketplace accounts. -/
namespace SellerSync

inductive AccountStatus where
  | active
  | inactive
  deriving DecidableEq, Repr, Inhabited

namespace AccountStatus

def name : AccountStatus → String
  | active => "active"
  | inactive => "inactive"

def ofName? : String → Option AccountStatus
  | "active" => some active
  | "inactive" => some inactive
  | _ => none

end AccountStatus

/-- Directions of sync: orders in, stock out, fulfillment out and shipping labels. -/
structure AccountFlags where
  ordersIn : Bool := true
  inventoryOut : Bool := true
  fulfillmentOut : Bool := true
  labels : Bool := false
  deriving DecidableEq, Repr, Inhabited

structure ChannelAccount where
  id : Uuid
  sellerId : Uuid
  marketplace : Marketplace
  externalId : Option String
  accessToken : Option String := none
  refreshToken : Option String := none
  accessTokenExpiresAt : Option Instant := none
  refreshTokenExpiresAt : Option Instant := none
  region : Option String := none
  marketplaceIds : List String := []
  flags : AccountFlags := {}
  status : AccountStatus := .active
  lastSyncedAt : Option Instant := none
  createdAt : Instant
  updatedAt : Instant
  deriving Repr, Inhabited

namespace ChannelAccount

/-- A fresh active account with default flags and no tokens, made at `now`. -/
def new (id sellerId : Uuid) (marketplace : Marketplace) (externalId : Option String)
    (now : Instant) : ChannelAccount :=
  { id, sellerId, marketplace, externalId, createdAt := now, updatedAt := now }

def isActive (a : ChannelAccount) : Bool := a.status == .active

def sameIdentity (a b : ChannelAccount) : Bool :=
  a.sellerId == b.sellerId && a.marketplace == b.marketplace && a.externalId == b.externalId

end ChannelAccount

end SellerSync
