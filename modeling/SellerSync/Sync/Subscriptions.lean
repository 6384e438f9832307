import SellerSync.Sync.Pull
/-! Webhook subscriptions of a storefront. -/
namespace SellerSync

/-- Which topics were created and which were already in place. -/
structure WebhookRegistration where
  created : List String := []
  existing : List String := []
  deriving Repr, Inhabited

namespace Subscriptions

open SyncM

def topics : List String :=
  ["products/create", "products/update", "inventory_levels/update", "orders/create",
    "orders/updated"]

def listed (body : Json) : List (String × String) :=
  (Pull.arrayField body "webhooks").filterMap fun hook =>
    match hook.get? "topic", hook.get? "address" with
    | some (.str topic), some (.str address) => some (topic, address)
    | _, _ => none

def subscription (topic address : String) : Json :=
  Json.object [("webhook", Json.object
    [("topic", .str topic), ("address", .str address), ("format", .str "json")])]

/-- Subscribes every topic at `address`. -/
def register (account : ChannelAccount) (address : String) : SyncM WebhookRegistration := do
  let path ← Pull.adminPath "webhooks.json"
  let registered ← match ← attempt (Executor.execute account ((ApiRequest.get path).withQuery "limit" "250")) with
    | .ok body => pure (listed body.toJson)
    | .error e => if e.isAuthFailure then fail e else pure []
  let mut outcome : WebhookRegistration := {}
  for topic in topics do
    if registered.contains (topic, address) then
      outcome := { outcome with existing := outcome.existing ++ [topic] }
    else
      match ← attempt (Executor.execute account (ApiRequest.post path (subscription topic address))) with
      | .ok _ => outcome := { outcome with created := outcome.created ++ [topic] }
      | .error (.providerRejected 422 _) =>
        outcome := { outcome with existing := outcome.existing ++ [topic] }
      | .error e => fail e
  return outcome

end Subscriptions

end SellerSync
