import Mathlib
import SellerSync.Proofs.Webhooks

/-! What `Credential.acquire` does with the stored account, the clock and the token endpoints, for
every store, every account id and every way the network answers. -/

namespace SellerSync

open SyncM Service

namespace Service

variable (σ : Service) (req : Except String HttpRequest)

@[simp] theorem offer_store : (σ.offer req).store = σ.store := rfl

@[simp] theorem offer_readings : (σ.offer req).readings = σ.readings := rfl

end Service

namespace SyncM

variable {α : Type} (c : Context) (σ : Service)

@[simp] theorem settings_run : ((settings.run c).run.run σ) = (.ok c.settings, σ) := rfl

@[simp] theorem transmit_run (req : Except String HttpRequest) :
    (((transmit req).run c).run.run σ) = (.ok (Client.exchange c.network σ.sent req), σ.offer req) :=
  rfl

theorem onStoreE_run (f : Store → Except SyncError (α × Store)) :
    (((onStoreE f).run c).run.run σ) =
      match f σ.store with
      | .ok (a, st) => (.ok a, { σ with store := st })
      | .error e => (.error e, σ) := by
  rcases h : f σ.store with e | ⟨a, st⟩
  · simp only [onStoreE, run_bind, store_run, expect_run, h]
  · simp only [onStoreE, run_bind, store_run, expect_run, h]
    rfl

end SyncM

namespace TokenEndpoint

/-- What the answer to a token request makes of it: the grant it carries, a transport failure,
or a refused refresh. -/
def outcome : Except String HttpResponse → Except SyncError TokenGrant
  | .error m => .error (.transport m)
  | .ok r => readGrant r

variable (c : Context) (σ : Service)

theorem post_run (url : String) (headers : List (String × String)) (body : String) :
    ((post url headers body).run c).run.run σ =
      let req := Client.request "POST" url headers body.toUTF8.toList
      (outcome (Client.exchange c.network σ.sent req), σ.offer req) := by
  simp only [post, run_bind, transmit_run]
  cases Client.exchange c.network σ.sent _ <;> simp [outcome]

theorem guarded_run (misconfigured : Bool) (e : SyncError) (url : String)
    (headers : List (String × String)) (body : String) :
    (((do if misconfigured then fail e
          post url headers body : SyncM TokenGrant).run c).run.run σ) =
      if misconfigured then (.error e, σ)
      else
        let req := Client.request "POST" url headers body.toUTF8.toList
        (outcome (Client.exchange c.network σ.sent req), σ.offer req) := by
  cases misconfigured
  · simp only [Bool.false_eq_true, ↓reduceIte, post_run]
  · simp only [↓reduceIte, run_bind, fail_run]

theorem shopify_run (cfg : ShopifySettings) (shop : String) (body : Json) :
    ((shopify cfg shop body).run c).run.run σ =
      if cfg.clientId.isEmpty || cfg.clientSecret.isEmpty then
        (.error (.configuration "SHOPIFY_CLIENT_ID or SHOPIFY_CLIENT_SECRET not configured"), σ)
      else
        let req := Client.request "POST" (cfg.shopBase shop ++ "/admin/oauth/access_token")
          [("content-type", "application/json")] body.render.toUTF8.toList
        (outcome (Client.exchange c.network σ.sent req), σ.offer req) :=
  guarded_run c σ _ _ _ _ _

theorem ebay_run (cfg : EbaySettings) (form : List (String × String)) :
    ((ebay cfg form).run c).run.run σ =
      if cfg.clientId.isEmpty || cfg.clientSecret.isEmpty then
        (.error (.configuration "EBAY_CLIENT_ID or EBAY_CLIENT_SECRET not configured"), σ)
      else
        let basic := "Basic " ++ Base64.encode (cfg.clientId ++ ":" ++ cfg.clientSecret).toUTF8.toList
        let req := Client.request "POST" cfg.tokenUrl (("authorization", basic) :: formHeaders)
          (Percent.formSerialize form).toUTF8.toList
        (outcome (Client.exchange c.network σ.sent req), σ.offer req) :=
  guarded_run c σ _ _ _ _ _

theorem amazon_run (cfg : AmazonSettings) (form : List (String × String)) :
    ((amazon cfg form).run c).run.run σ =
      if cfg.clientId.isEmpty || cfg.clientSecret.isEmpty then
        (.error (.configuration "AMAZON_LWA_CLIENT_ID or AMAZON_LWA_CLIENT_SECRET not configured"), σ)
      else
        let req := Client.request "POST" cfg.tokenUrl formHeaders
          (Percent.formSerialize form).toUTF8.toList
        (outcome (Client.exchange c.network σ.sent req), σ.offer req) :=
  guarded_run c σ _ _ _ _ _

theorem readGrant_error {r : HttpResponse} {e : SyncError} (h : readGrant r = .error e) :
    ∃ msg, e = .credentialRefreshFailed r.status msg ∧
      (¬(200 ≤ r.status ∧ r.status < 300) → msg = truncate r.body) := by
  unfold readGrant at h
  split at h
  · exact ⟨_, (Except.error.inj h).symm, fun _ => rfl⟩
  · rename_i hs
    have h2 : 200 ≤ r.status ∧ r.status < 300 := by simpa using hs
    split at h
    · exact ⟨_, (Except.error.inj h).symm, fun hn => absurd h2 hn⟩
    · rcases hd : TokenGrant.decode _ with d | g <;> rw [hd] at h
      · exact ⟨_, (Except.error.inj h).symm, fun hn => absurd h2 hn⟩
      · cases h

end TokenEndpoint

namespace ChannelAccount

/-- The account with the tokens of an update, stamped `at_`: the new access token and its expiry
always, a refresh token and its expiry only when the update carries a refresh token. -/
def withTokens (a : ChannelAccount) (u : TokenUpdate) (at_ : Instant) : ChannelAccount :=
  { a with
    accessToken := some u.accessToken
    accessTokenExpiresAt := u.accessTokenExpiresAt
    refreshToken := u.refreshToken.or a.refreshToken
    refreshTokenExpiresAt :=
      if u.refreshToken.isSome then u.refreshTokenExpiresAt else a.refreshTokenExpiresAt
    updatedAt := at_ }

@[simp] theorem withTokens_accessToken (a : ChannelAccount) (u : TokenUpdate) (at_ : Instant) :
    (a.withTokens u at_).accessToken = some u.accessToken := rfl

end ChannelAccount

namespace Store

variable {s : Store} {id : Uuid} {a : ChannelAccount}

theorem id_of_account? (h : s.account? id = some a) : a.id = id := by
  have := List.find?_some h
  simpa using this

theorem applyTokenUpdate_of_account (h : s.account? id = some a) (u : TokenUpdate) (at_ : Instant) :
    s.applyTokenUpdate id u at_ =
      .ok (a.withTokens u at_,
        { s with accounts := s.accounts.map fun x => if x.id == id then a.withTokens u at_ else x }) := by
  unfold applyTokenUpdate modifyAccount
  rw [h]
  cases hr : u.refreshToken <;> simp [ChannelAccount.withTokens, hr]

end Store

namespace Credential

/-- Where a refresh of the account's token is sent: its marketplace's token endpoint, or the
configuration error that keeps the refresh from being sent. -/
def refreshTarget (cfg : Settings) (a : ChannelAccount) : Except SyncError String :=
  match a.marketplace with
  | .shopify =>
    match a.externalId with
    | none => .error (.configuration ("shopify account " ++ a.id.toText ++ " has no shop"))
    | some shop =>
      if cfg.shopify.clientId.isEmpty || cfg.shopify.clientSecret.isEmpty then
        .error (.configuration "SHOPIFY_CLIENT_ID or SHOPIFY_CLIENT_SECRET not configured")
      else .ok (cfg.shopify.shopBase shop ++ "/admin/oauth/access_token")
  | .ebay =>
    if cfg.ebay.clientId.isEmpty || cfg.ebay.clientSecret.isEmpty then
      .error (.configuration "EBAY_CLIENT_ID or EBAY_CLIENT_SECRET not configured")
    else .ok cfg.ebay.tokenUrl
  | .amazon =>
    if cfg.amazon.clientId.isEmpty || cfg.amazon.clientSecret.isEmpty then
      .error (.configuration "AMAZON_LWA_CLIENT_ID or AMAZON_LWA_CLIENT_SECRET not configured")
    else .ok cfg.amazon.tokenUrl

variable (c : Context) (σ : Service)

theorem refreshGrant_run (cfg : Settings) (a : ChannelAccount) (refresh : String) :
    (∃ e, refreshTarget cfg a = .error e ∧
      ((refreshGrant cfg a refresh).run c).run.run σ = (.error e, σ)) ∨
    (∃ url headers body, refreshTarget cfg a = .ok url ∧
      let req := Client.request "POST" url headers body
      ((refreshGrant cfg a refresh).run c).run.run σ =
        (TokenEndpoint.outcome (Client.exchange c.network σ.sent req), σ.offer req)) := by
  cases hm : a.marketplace with
  | shopify =>
    cases hs : a.externalId with
    | none =>
      refine .inl ⟨.configuration ("shopify account " ++ a.id.toText ++ " has no shop"), ?_, ?_⟩
      · simp only [refreshTarget, hm, hs]
      · simp only [refreshGrant, hm, hs, fail_run]
    | some shop =>
      simp only [refreshGrant, refreshTarget, hm, hs, TokenEndpoint.shopifyRefresh,
        TokenEndpoint.shopify_run]
      cases cfg.shopify.clientId.isEmpty || cfg.shopify.clientSecret.isEmpty
      · exact .inr ⟨_, _, _, rfl, rfl⟩
      · exact .inl ⟨_, rfl, rfl⟩
  | ebay =>
    simp only [refreshGrant, refreshTarget, hm, TokenEndpoint.ebayRefresh, TokenEndpoint.ebay_run]
    cases cfg.ebay.clientId.isEmpty || cfg.ebay.clientSecret.isEmpty
    · exact .inr ⟨_, _, _, rfl, rfl⟩
    · exact .inl ⟨_, rfl, rfl⟩
  | amazon =>
    simp only [refreshGrant, refreshTarget, hm, TokenEndpoint.amazonRefresh,
      TokenEndpoint.amazon_run]
    cases cfg.amazon.clientId.isEmpty || cfg.amazon.clientSecret.isEmpty
    · exact .inr ⟨_, _, _, rfl, rfl⟩
    · exact .inl ⟨_, rfl, rfl⟩

/-- A refresh is due at `now` when the account has no access token, or one that expires within
the refresh margin. -/
def RefreshDue (a : ChannelAccount) (now : Instant) : Prop :=
  ∀ token, a.accessToken = some token → needsRefresh a.accessTokenExpiresAt now = true

/-- How acquiring a credential for the account `id` ends, from the service `σ` in the context
`c`: its answer and the service after. The decision reads the clock once, and a stored refresh
reads it a second time for the account's stamp. -/
inductive Acquisition (c : Context) (σ : Service) (id : Uuid) :
    Except SyncError String × Service → Prop
  /-- No stored account has the id; the store is only read. -/
  | unknown : σ.store.account? id = none →
      Acquisition c σ id (.error (.notFound "channel account" id.toText), σ)
  /-- The stored token is good beyond the refresh margin: it is returned, nothing is sent and
  the store is unchanged. -/
  | current {a : ChannelAccount} {token : String} : σ.store.account? id = some a →
      a.accessToken = some token →
      needsRefresh a.accessTokenExpiresAt (readingOf c.origin (σ.readings + 1)) = false →
      Acquisition c σ id (.ok token, { σ with readings := σ.readings + 1 })
  /-- A refresh is due and no refresh token is stored: nothing is sent and the store is
  unchanged. -/
  | noRefreshToken {a : ChannelAccount} : σ.store.account? id = some a →
      RefreshDue a (readingOf c.origin (σ.readings + 1)) → a.refreshToken = none →
      Acquisition c σ id (.error (.credentialMissing a.id), { σ with readings := σ.readings + 1 })
  /-- The marketplace's client credentials, or a storefront's shop, are missing: nothing is
  sent and the store is unchanged. -/
  | unconfigured {a : ChannelAccount} {refresh : String} {e : SyncError} :
      σ.store.account? id = some a → RefreshDue a (readingOf c.origin (σ.readings + 1)) →
      a.refreshToken = some refresh → refreshTarget c.settings a = .error e →
      Acquisition c σ id (.error e, { σ with readings := σ.readings + 1 })
  /-- One request goes to the marketplace's token endpoint and no connection is made: the
  store is unchanged. -/
  | unreachable {a : ChannelAccount} {refresh url : String} {headers : List (String × String)}
      {body : List UInt8} {m : String} :
      σ.store.account? id = some a → RefreshDue a (readingOf c.origin (σ.readings + 1)) →
      a.refreshToken = some refresh → refreshTarget c.settings a = .ok url →
      Client.exchange c.network σ.sent (Client.request "POST" url headers body) = .error m →
      Acquisition c σ id (.error (.transport m),
        { σ with readings := σ.readings + 1 }.offer (Client.request "POST" url headers body))
  /-- One request goes to the token endpoint, which answers with no grant: the refresh fails
  with the answer's status, and outside 2xx with the start of its body. The store is
  unchanged. -/
  | refused {a : ChannelAccount} {refresh url : String} {headers : List (String × String)}
      {body : List UInt8} {resp : HttpResponse} {msg : String} :
      σ.store.account? id = some a → RefreshDue a (readingOf c.origin (σ.readings + 1)) →
      a.refreshToken = some refresh → refreshTarget c.settings a = .ok url →
      Client.exchange c.network σ.sent (Client.request "POST" url headers body) = .ok resp →
      TokenEndpoint.readGrant resp = .error (.credentialRefreshFailed resp.status msg) →
      (¬(200 ≤ resp.status ∧ resp.status < 300) → msg = TokenEndpoint.truncate resp.body) →
      Acquisition c σ id (.error (.credentialRefreshFailed resp.status msg),
        { σ with readings := σ.readings + 1 }.offer (Client.request "POST" url headers body))
  /-- One request goes to the token endpoint, whose grant lasts beyond the calendar: the store
  is unchanged. -/
  | outOfRange {a : ChannelAccount} {refresh url : String} {headers : List (String × String)}
      {body : List UInt8} {resp : HttpResponse} {g : TokenGrant} {e : SyncError} :
      σ.store.account? id = some a → RefreshDue a (readingOf c.origin (σ.readings + 1)) →
      a.refreshToken = some refresh → refreshTarget c.settings a = .ok url →
      Client.exchange c.network σ.sent (Client.request "POST" url headers body) = .ok resp →
      TokenEndpoint.readGrant resp = .ok g → g.toUpdate (readingOf c.origin (σ.readings + 1)) = .error e →
      Acquisition c σ id (.error e,
        { σ with readings := σ.readings + 1 }.offer (Client.request "POST" url headers body))
  /-- One request goes to the token endpoint, which hands out a grant: the account takes its
  tokens, stamped with a second clock reading, and the new access token is returned. -/
  | refreshed {a : ChannelAccount} {refresh url : String} {headers : List (String × String)}
      {body : List UInt8} {resp : HttpResponse} {g : TokenGrant} {u : TokenUpdate} :
      σ.store.account? id = some a → RefreshDue a (readingOf c.origin (σ.readings + 1)) →
      a.refreshToken = some refresh → refreshTarget c.settings a = .ok url →
      Client.exchange c.network σ.sent (Client.request "POST" url headers body) = .ok resp →
      TokenEndpoint.readGrant resp = .ok g → g.toUpdate (readingOf c.origin (σ.readings + 1)) = .ok u →
      Acquisition c σ id (.ok u.accessToken,
        { σ.offer (Client.request "POST" url headers body) with
          readings := σ.readings + 2
          store := { σ.store with
            accounts := σ.store.accounts.map fun x =>
              if x.id == id then a.withTokens u (readingOf c.origin (σ.readings + 2)) else x } })

theorem renew_acquisition {id : Uuid} {a : ChannelAccount} (ha : σ.store.account? id = some a)
    (hdue : RefreshDue a (readingOf c.origin (σ.readings + 1))) :
    Acquisition c σ id (((renew a (readingOf c.origin (σ.readings + 1))).run c).run.run
      { σ with readings := σ.readings + 1 }) := by
  cases hr : a.refreshToken with
  | none =>
    have hrun : ((renew a (readingOf c.origin (σ.readings + 1))).run c).run.run
        { σ with readings := σ.readings + 1 } =
        (.error (.credentialMissing a.id), { σ with readings := σ.readings + 1 }) := by
      simp only [renew, hr, fail_run]
    rw [hrun]
    exact .noRefreshToken ha hdue hr
  | some refresh =>
    have hid : a.id = id := Store.id_of_account? ha
    rcases refreshGrant_run c { σ with readings := σ.readings + 1 } c.settings a refresh with
      ⟨e, ht, hg⟩ | ⟨url, headers, body, ht, hg⟩
    · simp only [renew, hr, run_bind, settings_run, hg]
      exact .unconfigured ha hdue hr ht
    · have hsent : ({ σ with readings := σ.readings + 1 } : Service).sent = σ.sent := rfl
      rw [hsent] at hg
      cases hx : Client.exchange c.network σ.sent (Client.request "POST" url headers body) with
      | error m =>
        simp only [renew, hr, run_bind, settings_run, hg, hx, TokenEndpoint.outcome]
        exact .unreachable ha hdue hr ht hx
      | ok resp =>
        cases hgr : TokenEndpoint.readGrant resp with
        | error e =>
          obtain ⟨msg, rfl, hmsg⟩ := TokenEndpoint.readGrant_error hgr
          simp only [renew, hr, run_bind, settings_run, hg, hx, TokenEndpoint.outcome, hgr]
          exact .refused ha hdue hr ht hx hgr hmsg
        | ok g =>
          cases hu : g.toUpdate (readingOf c.origin (σ.readings + 1)) with
          | error e =>
            simp only [renew, hr, run_bind, settings_run, hg, hx, TokenEndpoint.outcome, hgr,
              expect_run, hu]
            exact .outOfRange ha hdue hr ht hx hgr hu
          | ok u =>
            have hw := Store.applyTokenUpdate_of_account (hid ▸ ha) u
              (readingOf c.origin (σ.readings + 1 + 1))
            simp only [renew, hr, run_bind, settings_run, hg, hx, TokenEndpoint.outcome, hgr,
              expect_run, hu, now_run, onStoreE_run, Service.offer_store, Service.offer_readings, hw,
              ChannelAccount.withTokens_accessToken, pure_run]
            subst hid
            exact .refreshed ha hdue hr ht hx hgr hu

theorem acquire_outcome (id : Uuid) :
    Acquisition c σ id (((acquire id).run c).run.run σ) := by
  cases ha : σ.store.account? id with
  | none =>
    simp only [acquire, run_bind, store_run, Store.requireAccount, ha, expect_run]
    exact .unknown ha
  | some a =>
    simp only [acquire, run_bind, store_run, Store.requireAccount, ha, expect_run, now_run]
    cases ht : a.accessToken with
    | none =>
      have hdue : RefreshDue a (readingOf c.origin (σ.readings + 1)) := by
        intro token h
        simp [ht] at h
      exact renew_acquisition c σ ha hdue
    | some token =>
      cases hn : needsRefresh a.accessTokenExpiresAt (readingOf c.origin (σ.readings + 1)) with
      | false =>
        exact .current ha ht hn
      | true =>
        have hdue : RefreshDue a (readingOf c.origin (σ.readings + 1)) := fun _ _ => hn
        simp only [Bool.not_true, Bool.false_eq_true, ↓reduceIte]
        exact renew_acquisition c σ ha hdue

end Credential

end SellerSync
