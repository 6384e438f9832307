import SellerSync.Marketplace
import SellerSync.Time.Instant
/-! Polling cadence. Accounts are polled by family: the storefronts (Shopify and eBay) every half
hour, Amazon every hour. -/
namespace SellerSync

structure ChannelFamily where
  name : String
  marketplaces : List Marketplace
  cadenceSecs : Nat
  deriving Repr, Inhabited

namespace ChannelFamily

def storefront : ChannelFamily := ⟨"storefront", [.shopify, .ebay], 30 * 60⟩

def amazon : ChannelFamily := ⟨"amazon", [.amazon], 60 * 60⟩

def all : List ChannelFamily := [storefront, amazon]

def ofName? (s : String) : Option ChannelFamily := all.find? (·.name == s)

end ChannelFamily

namespace Schedule

/-- Whether an account last synced at `lastSynced` is due at `now` under a cadence in seconds. -/
def isDue (lastSynced : Option Instant) (now : Instant) (cadenceSecs : Nat) : Bool :=
  match lastSynced with
  | none => true
  | some last =>
    let elapsed := (now.since last).toNanos
    0 ≤ elapsed && (cadenceSecs : Int) * 1000000000 ≤ elapsed

end Schedule

end SellerSync
