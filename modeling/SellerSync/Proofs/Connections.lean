import Mathlib
import SellerSync.Proofs.LabelWrites
import SellerSync.Proofs.Subscriptions
/-! What `Connect.complete` does, for every callback and store, in its three stages: grant, link and
follow-up. -/

open Std.Do

set_option mvcgen.warning false

namespace SellerSync

open SyncM Service

/-! ### The three stages -/

namespace Connect

/-- Authorizes a callback and exchanges its code: the redeemed authorization and the tokens to
store. -/
def grant (m : Marketplace) (params : CallbackParams) : SyncM (OAuthTransaction × TokenUpdate) := do
  let (t, code) ← authorize m params
  let grant ← Credential.exchangeCode t code
  let update ← expect (grant.toUpdate (← now))
  return (t, update)

/-- Writes the connected account into the store; answers the account as stored. -/
def link (m : Marketplace) (t : OAuthTransaction) (params : CallbackParams) (update : TokenUpdate) :
    SyncM ChannelAccount := do
  let account ← connectedAccount m t params update
  let at_ ← now
  onStore (·.upsertAccount account at_)

variable (c : Context)

namespace Carries

variable {u : TokenUpdate} {base a : ChannelAccount}

end Carries

end Connect

/-! ### Writing an account over its key -/

namespace Rows

variable {α ι κ : Type} {f : α → ι} {k : α → κ} {l : List α}

end Rows

namespace Store

end Store

namespace Connect

variable (c : Context)

/-- What a connection under the external id `x` leaves in the store `s'` it wrote over `s`: the
account `a` it answers is the one account of the seller on the marketplace under `x`. It is active
and holds the granted tokens; it holds the granted refresh token, else the one of the account it
replaced, else none; it keeps the id, creation time and flags of the account it replaced; and on
eBay and Amazon it names a marketplace, on Amazon the callback's or the region's default. -/
structure Linked (s s' : Store) (m : Marketplace) (t : OAuthTransaction) (params : CallbackParams)
    (u : TokenUpdate) (x : String) (a : ChannelAccount) : Prop where
  mem : a ∈ s'.accounts
  key : a.key = (t.sellerId, m, some x)
  unique : ∀ b ∈ s'.accounts, b.key = a.key → b = a
  active : a.status = .active
  accessToken : a.accessToken = some u.accessToken
  accessTokenExpiresAt : a.accessTokenExpiresAt = u.accessTokenExpiresAt
  refreshGranted : u.refreshToken.isSome →
    a.refreshToken = u.refreshToken ∧ a.refreshTokenExpiresAt = u.refreshTokenExpiresAt
  refreshKept : u.refreshToken = none → ∀ p ∈ s.accounts, p.key = a.key →
    a.refreshToken = p.refreshToken ∧ a.refreshTokenExpiresAt = p.refreshTokenExpiresAt
  refreshNew : u.refreshToken = none → (∀ p ∈ s.accounts, p.key ≠ a.key) →
    a.refreshToken = none ∧ a.refreshTokenExpiresAt = none
  identity : ∀ p ∈ s.accounts, p.key = a.key → a.id = p.id ∧ a.createdAt = p.createdAt ∧ a.flags = p.flags
  marketplaces : m ≠ .shopify → a.marketplaceIds ≠ []
  amazon : m = .amazon → a.marketplaceIds = amazonMarketplaces (t.region.getD "na") params.marketplaceIds

section Linking

variable {s : Store} {m : Marketplace} {t : OAuthTransaction} {params : CallbackParams}
  {u : TokenUpdate} {x : String}

end Linking

section Granted

end Granted

end Connect

end SellerSync
