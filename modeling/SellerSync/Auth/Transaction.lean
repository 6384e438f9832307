import SellerSync.Marketplace
import SellerSync.Uuid
import SellerSync.Time.Instant
import SellerSync.Error
/-! Authorizations in flight. Starting one issues a nonce that the marketplace hands back with the
callback; the nonce is good for ten minutes and for one use. -/
namespace SellerSync

structure OAuthTransaction where
  nonce : String
  sellerId : Uuid
  marketplace : Marketplace
  region : Option String
  shopDomain : Option String
  /-- The seller's identity given up front where the callback carries none. -/
  externalId : Option String
  redirectTo : Option String
  expiresAt : Instant
  deriving Repr, Inhabited

/-- What starting an authorization asks for. -/
structure NewAuthorization where
  sellerId : Uuid
  marketplace : Marketplace
  region : Option String := none
  shopDomain : Option String := none
  externalId : Option String := none
  redirectTo : Option String := none
  deriving Repr, Inhabited

namespace OAuthTransaction

def lifetimeSecs : Int := 10 * 60

def consume (pending : List OAuthTransaction) (nonce : String) (marketplace : Marketplace)
    (now : Instant) : List OAuthTransaction × Except SyncError OAuthTransaction :=
  let rest := pending.filter (·.nonce != nonce)
  match pending.find? (·.nonce == nonce) with
  | none => (rest, .error (.oauthState "unknown or already used state"))
  | some t =>
    if Instant.le t.expiresAt now then (rest, .error (.oauthState "state expired"))
    else if t.marketplace != marketplace then
      (rest, .error (.oauthState ("state was issued for " ++ t.marketplace.name)))
    else (rest, .ok t)

theorem consume_removes (pending : List OAuthTransaction) (nonce : String) (m : Marketplace)
    (now : Instant) : ∀ t ∈ (consume pending nonce m now).1, t.nonce ≠ nonce := by
  intro t ht
  unfold consume at ht
  split at ht <;> (try split at ht) <;> (try split at ht) <;>
    simp only [List.mem_filter, bne_iff_ne, ne_eq] at ht <;> exact ht.2

end OAuthTransaction

end SellerSync
