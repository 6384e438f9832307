import SellerSync.Marketplace
import SellerSync.Uuid
import SellerSync.Api.ResponseBody
/-! What can go wrong while syncing, by cause. `message` gives the one text of each cause; `kind`
names its class. -/
namespace SellerSync

inductive SyncError where
  | credentialMissing (account : Uuid)
  | credentialRefreshFailed (status : Nat) (body : String)
  | providerRateLimited (status : Nat) (body : ResponseBody) (attempts : Nat)
  | providerTransientFailure (status : Nat) (body : ResponseBody) (attempts : Nat)
  | providerRejected (status : Nat) (body : ResponseBody)
  | invalidPayload (marketplace : Marketplace) (reason : String)
  | noCachedQuote
  | transport (text : String)
  | notFound (entity : String) (id : String)
  | configuration (text : String)
  | oauthState (text : String)
  | quoteProvider (text : String)
  | storage (text : String)
  /-- An arithmetic or calendar overflow that stops the operation where it happens. -/
  | overflow (text : String)
  deriving Repr, Inhabited

namespace SyncError

def kind : SyncError → String
  | credentialMissing .. => "credential_missing"
  | credentialRefreshFailed .. => "credential_refresh_failed"
  | providerRateLimited .. => "provider_rate_limited"
  | providerTransientFailure .. => "provider_transient_failure"
  | providerRejected .. => "provider_rejected"
  | invalidPayload .. => "invalid_external_payload"
  | noCachedQuote => "no_cached_quote"
  | transport .. => "transport"
  | notFound .. => "not_found"
  | configuration .. => "configuration"
  | oauthState .. => "o_auth_state"
  | quoteProvider .. => "quote_provider"
  | storage .. => "storage"
  | overflow .. => "panic"

def message : SyncError → String
  | credentialMissing a => "account " ++ a.toText ++ " has no refresh token"
  | credentialRefreshFailed s b => "token refresh failed with HTTP " ++ toString s ++ ": " ++ b
  | providerRateLimited s _ n =>
    "rate limited by provider after " ++ toString n ++ " attempts (HTTP " ++ toString s ++ ")"
  | providerTransientFailure s _ n =>
    "provider failed after " ++ toString n ++ " attempts (HTTP " ++ toString s ++ ")"
  | providerRejected s b => "provider rejected request with HTTP " ++ toString s ++ ": " ++ b.display
  | invalidPayload m r => "invalid " ++ m.name ++ " payload: " ++ r
  | noCachedQuote => "no cached quote for requested band"
  | transport t => "transport error: " ++ t
  | notFound e i => e ++ " " ++ i ++ " not found"
  | configuration t => "configuration error: " ++ t
  | oauthState t => "oauth state rejected: " ++ t
  | quoteProvider t => "quote provider failed: " ++ t
  | storage t => "storage error: " ++ t
  | overflow t => t

def isAuthFailure : SyncError → Bool
  | credentialMissing _ => true
  | credentialRefreshFailed s _ => s == 400 || s == 401 || s == 403
  | _ => false

def httpStatus? : SyncError → Option Nat
  | credentialRefreshFailed s _ => some s
  | providerRateLimited s _ _ => some s
  | providerTransientFailure s _ _ => some s
  | providerRejected s _ => some s
  | _ => none

def additionOverflow : SyncError := overflow "Addition overflowed"

def multiplicationOverflow : SyncError := overflow "Multiplication overflowed"

def spanOutOfRange : SyncError := overflow "TimeDelta::seconds out of bounds"

def instantOutOfRange : SyncError := overflow "`DateTime + TimeDelta` overflowed"

end SyncError

end SellerSync
