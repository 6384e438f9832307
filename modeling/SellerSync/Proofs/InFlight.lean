import Mathlib
import SellerSync.Proofs.Retries
/-! Only a start and a redemption change the authorizations in flight. -/

open Std.Do

set_option mvcgen.warning false

namespace SellerSync

namespace OAuthTransaction

/-- The authorizations in flight once `nonce` is redeemed: all but the ones it names. -/
def burn (pending : List OAuthTransaction) (nonce : String) : List OAuthTransaction :=
  pending.filter (·.nonce != nonce)

@[simp] theorem consume_fst (pending : List OAuthTransaction) (nonce : String) (m : Marketplace)
    (now : Instant) : (consume pending nonce m now).1 = burn pending nonce := by
  unfold consume
  split
  · rfl
  · split
    · rfl
    · split <;> rfl

/-- The authorizations in flight once a start keeps `t` at `now`: those still good at `now`,
then `t`. -/
def enter (pending : List OAuthTransaction) (now : Instant) (t : OAuthTransaction) :
    List OAuthTransaction :=
  pending.filter (fun x => Instant.lt now x.expiresAt) ++ [t]

end OAuthTransaction

variable (L : List OAuthTransaction)

@[spec high] theorem SyncM.forIn_inFlight {α β : Type} {xs : List α} {init : β}
    {f : α → β → SyncM (ForInStep β)}
    (step : ∀ x b, ⦃fun _ σ => ⌜σ.pending = L⌝⦄ f x b
      ⦃post⟨fun _ _ σ => ⌜σ.pending = L⌝, fun _ σ => ⌜σ.pending = L⌝⟩⦄) :
    ⦃fun _ σ => ⌜σ.pending = L⌝⦄ forIn xs init f
      ⦃post⟨fun _ _ σ => ⌜σ.pending = L⌝, fun _ σ => ⌜σ.pending = L⌝⟩⦄ := by
  mvcgen [step, -SyncM.forIn_good, -SyncM.forIn_holds, -SyncM.forIn_soundWith] invariants
    · post⟨fun _ _ σ => ⌜σ.pending = L⌝, fun _ σ => ⌜σ.pending = L⌝⟩
  with
  | vc2 => exact id
  | vc5 r =>
    intro _ _ h
    cases r <;> exact h

namespace TokenEndpoint

theorem post_inFlight (url : String) (headers : List (String × String)) (body : String) :
    ⦃fun _ σ => ⌜σ.pending = L⌝⦄ post url headers body
      ⦃post⟨fun _ _ σ => ⌜σ.pending = L⌝, fun _ σ => ⌜σ.pending = L⌝⟩⦄ := by
  mvcgen [post, SyncM.expect]

theorem shopify_inFlight (c : ShopifySettings) (shop : String) (body : Json) :
    ⦃fun _ σ => ⌜σ.pending = L⌝⦄ shopify c shop body
      ⦃post⟨fun _ _ σ => ⌜σ.pending = L⌝, fun _ σ => ⌜σ.pending = L⌝⟩⦄ := by
  have hp := post_inFlight L
  mvcgen [shopify, hp]

theorem ebay_inFlight (c : EbaySettings) (form : List (String × String)) :
    ⦃fun _ σ => ⌜σ.pending = L⌝⦄ ebay c form
      ⦃post⟨fun _ _ σ => ⌜σ.pending = L⌝, fun _ σ => ⌜σ.pending = L⌝⟩⦄ := by
  have hp := post_inFlight L
  mvcgen [ebay, hp]

theorem amazon_inFlight (c : AmazonSettings) (form : List (String × String)) :
    ⦃fun _ σ => ⌜σ.pending = L⌝⦄ amazon c form
      ⦃post⟨fun _ _ σ => ⌜σ.pending = L⌝, fun _ σ => ⌜σ.pending = L⌝⟩⦄ := by
  have hp := post_inFlight L
  mvcgen [amazon, hp]

end TokenEndpoint

namespace Credential

theorem exchangeCode_inFlight (t : OAuthTransaction) (code : String) :
    ⦃fun _ σ => ⌜σ.pending = L⌝⦄ exchangeCode t code
      ⦃post⟨fun _ _ σ => ⌜σ.pending = L⌝, fun _ σ => ⌜σ.pending = L⌝⟩⦄ := by
  have hs := TokenEndpoint.shopify_inFlight L
  have he := TokenEndpoint.ebay_inFlight L
  have ha := TokenEndpoint.amazon_inFlight L
  mvcgen [exchangeCode, TokenEndpoint.shopifyExchange, TokenEndpoint.ebayExchange,
    TokenEndpoint.amazonExchange, hs, he, ha]

theorem acquire_inFlight (id : Uuid) :
    ⦃fun _ σ => ⌜σ.pending = L⌝⦄ acquire id
      ⦃post⟨fun _ _ σ => ⌜σ.pending = L⌝, fun _ σ => ⌜σ.pending = L⌝⟩⦄ := by
  have hs := TokenEndpoint.shopify_inFlight L
  have he := TokenEndpoint.ebay_inFlight L
  have ha := TokenEndpoint.amazon_inFlight L
  mvcgen [acquire, renew, refreshGrant, SyncM.expect, SyncM.onStoreE,
    TokenEndpoint.shopifyRefresh, TokenEndpoint.ebayRefresh, TokenEndpoint.amazonRefresh, hs, he,
    ha, -acquire_sound]

end Credential

namespace Executor

theorem baseUrl_inFlight (account : ChannelAccount) :
    ⦃fun _ σ => ⌜σ.pending = L⌝⦄ baseUrl account
      ⦃post⟨fun _ _ σ => ⌜σ.pending = L⌝, fun _ σ => ⌜σ.pending = L⌝⟩⦄ := by
  mvcgen [baseUrl]

theorem buildUrl_inFlight (account : ChannelAccount) (req : ApiRequest) :
    ⦃fun _ σ => ⌜σ.pending = L⌝⦄ buildUrl account req
      ⦃post⟨fun _ _ σ => ⌜σ.pending = L⌝, fun _ σ => ⌜σ.pending = L⌝⟩⦄ := by
  have hb := baseUrl_inFlight L
  mvcgen [buildUrl, hb]

theorem sendOnce_inFlight (account : ChannelAccount) (req : ApiRequest) (url : Url)
    (body : Option (List UInt8)) (token : String) :
    ⦃fun _ σ => ⌜σ.pending = L⌝⦄ sendOnce account req url body token
      ⦃post⟨fun _ _ σ => ⌜σ.pending = L⌝, fun _ σ => ⌜σ.pending = L⌝⟩⦄ := by
  mvcgen [sendOnce, SyncM.expect]

theorem attemptFrom_inFlight (send : SyncM Attempt)
    (hs : ⦃fun _ σ => ⌜σ.pending = L⌝⦄ send
      ⦃post⟨fun _ _ σ => ⌜σ.pending = L⌝, fun _ σ => ⌜σ.pending = L⌝⟩⦄) (attempt left : Nat) :
    ⦃fun _ σ => ⌜σ.pending = L⌝⦄ attemptFrom send attempt left
      ⦃post⟨fun _ _ σ => ⌜σ.pending = L⌝, fun _ σ => ⌜σ.pending = L⌝⟩⦄ := by
  induction left generalizing attempt with
  | zero => mvcgen [attemptFrom, hs]
  | succ l ih => mvcgen [attemptFrom, hs, ih]

theorem execute_inFlight (account : ChannelAccount) (req : ApiRequest) :
    ⦃fun _ σ => ⌜σ.pending = L⌝⦄ execute account req
      ⦃post⟨fun _ _ σ => ⌜σ.pending = L⌝, fun _ σ => ⌜σ.pending = L⌝⟩⦄ := by
  have hq := Credential.acquire_inFlight L
  have hb := buildUrl_inFlight L
  have ha := attemptFrom_inFlight L
  have hs := sendOnce_inFlight L
  mvcgen [execute, hq, hb, ha, hs, -execute_sound, -Credential.acquire_sound]

end Executor

theorem Subscriptions.register_inFlight (account : ChannelAccount) (address : String) :
    ⦃fun _ σ => ⌜σ.pending = L⌝⦄ Subscriptions.register account address
      ⦃post⟨fun _ _ σ => ⌜σ.pending = L⌝, fun _ σ => ⌜σ.pending = L⌝⟩⦄ := by
  have he := Executor.execute_inFlight L
  mvcgen [Subscriptions.register, Pull.adminPath, SyncM.attempt, he,
    -Subscriptions.register_sound, -Executor.execute_sound, -SyncM.forIn_good, -SyncM.forIn_holds,
    -SyncM.forIn_soundWith] with grind

namespace Pipeline

theorem resolveCustomer_inFlight (a : ChannelAccount) (o : IncomingOrder) :
    ⦃fun _ σ => ⌜σ.pending = L⌝⦄ resolveCustomer a o
      ⦃post⟨fun _ _ σ => ⌜σ.pending = L⌝, fun _ σ => ⌜σ.pending = L⌝⟩⦄ := by
  mvcgen [resolveCustomer, -resolveCustomer_sound]

theorem resolveLineItem_inFlight (a : ChannelAccount) (line : IncomingLine) :
    ⦃fun _ σ => ⌜σ.pending = L⌝⦄ resolveLineItem a line
      ⦃post⟨fun _ _ σ => ⌜σ.pending = L⌝, fun _ σ => ⌜σ.pending = L⌝⟩⦄ := by
  mvcgen [resolveLineItem, -resolveLineItem_sound]

theorem projectAudit_inFlight (a : ChannelAccount) (stored : StoredOrder) (o : IncomingOrder)
    (src : IngestSource) :
    ⦃fun _ σ => ⌜σ.pending = L⌝⦄ projectAudit a stored o src
      ⦃post⟨fun _ _ σ => ⌜σ.pending = L⌝, fun _ σ => ⌜σ.pending = L⌝⟩⦄ := by
  mvcgen [projectAudit, SyncM.expect, -projectAudit_sound, -SyncM.forIn_good, -SyncM.forIn_holds,
    -SyncM.forIn_soundWith] with grind

theorem applyOrder_inFlight (a : ChannelAccount) (o : IncomingOrder) (src : IngestSource) :
    ⦃fun _ σ => ⌜σ.pending = L⌝⦄ applyOrder a o src
      ⦃post⟨fun _ _ σ => ⌜σ.pending = L⌝, fun _ σ => ⌜σ.pending = L⌝⟩⦄ := by
  have hc := resolveCustomer_inFlight L a o
  have hl := resolveLineItem_inFlight L a
  have hp := projectAudit_inFlight L a
  mvcgen [applyOrder, hc, hl, hp, -applyOrder_sound, -resolveCustomer_sound,
    -resolveLineItem_sound, -projectAudit_sound, -SyncM.forIn_good, -SyncM.forIn_holds,
    -SyncM.forIn_soundWith] with grind

theorem applyRawOrders_inFlight (a : ChannelAccount) (orders : List RawOrder) (src : IngestSource) :
    ⦃fun _ σ => ⌜σ.pending = L⌝⦄ applyRawOrders a orders src
      ⦃post⟨fun _ _ σ => ⌜σ.pending = L⌝, fun _ σ => ⌜σ.pending = L⌝⟩⦄ := by
  have ho := applyOrder_inFlight L a
  mvcgen [applyRawOrders, ho, -applyRawOrders_sound, -applyOrder_sound, -SyncM.forIn_good,
    -SyncM.forIn_holds, -SyncM.forIn_soundWith] with grind

theorem applyProduct_inFlight (a : ChannelAccount) (p : IncomingProduct) :
    ⦃fun _ σ => ⌜σ.pending = L⌝⦄ applyProduct a p
      ⦃post⟨fun _ _ σ => ⌜σ.pending = L⌝, fun _ σ => ⌜σ.pending = L⌝⟩⦄ := by
  mvcgen [applyProduct, -applyProduct_sound, -SyncM.forIn_good, -SyncM.forIn_holds,
    -SyncM.forIn_soundWith] with grind

theorem applyStock_inFlight (a : ChannelAccount) (st : IncomingStock) :
    ⦃fun _ σ => ⌜σ.pending = L⌝⦄ applyStock a st
      ⦃post⟨fun _ _ σ => ⌜σ.pending = L⌝, fun _ σ => ⌜σ.pending = L⌝⟩⦄ := by
  mvcgen [applyStock, -applyStock_sound]

end Pipeline

namespace Pull

theorem ebayPages_inFlight (account : ChannelAccount) (field : String) (fuel : Nat)
    (req : ApiRequest) (acc : List Json) :
    ⦃fun _ σ => ⌜σ.pending = L⌝⦄ ebayPages account field fuel req acc
      ⦃post⟨fun _ _ σ => ⌜σ.pending = L⌝, fun _ σ => ⌜σ.pending = L⌝⟩⦄ := by
  have he := Executor.execute_inFlight L
  induction fuel generalizing req acc with
  | zero => mvcgen [ebayPages]
  | succ fuel ih => mvcgen [ebayPages, ih, he, -Executor.execute_sound]

theorem amazonPages_inFlight (account : ChannelAccount) (path field : String) (fuel : Nat)
    (req : ApiRequest) (acc : List Json) :
    ⦃fun _ σ => ⌜σ.pending = L⌝⦄ amazonPages account path field fuel req acc
      ⦃post⟨fun _ _ σ => ⌜σ.pending = L⌝, fun _ σ => ⌜σ.pending = L⌝⟩⦄ := by
  have he := Executor.execute_inFlight L
  induction fuel generalizing req acc with
  | zero => mvcgen [amazonPages]
  | succ fuel ih => mvcgen [amazonPages, ih, he, -Executor.execute_sound]

theorem shopify_inFlight (account : ChannelAccount) (since : Instant) :
    ⦃fun _ σ => ⌜σ.pending = L⌝⦄ shopify account since
      ⦃post⟨fun _ _ σ => ⌜σ.pending = L⌝, fun _ σ => ⌜σ.pending = L⌝⟩⦄ := by
  have he := Executor.execute_inFlight L
  have hp := Pipeline.applyProduct_inFlight L account
  have ho := Pipeline.applyRawOrders_inFlight L account
  have hs := Pipeline.applyStock_inFlight L account
  mvcgen [shopify, shopifyProducts, shopifyOrders, shopifyLevels, adminPath, SyncM.attempt, he,
    hp, ho, hs, -Executor.execute_sound, -Pipeline.applyProduct_sound,
    -Pipeline.applyRawOrders_sound, -Pipeline.applyStock_sound, -SyncM.forIn_good,
    -SyncM.forIn_holds, -SyncM.forIn_soundWith] with grind

theorem ebay_inFlight (account : ChannelAccount) (since : Instant) :
    ⦃fun _ σ => ⌜σ.pending = L⌝⦄ ebay account since
      ⦃post⟨fun _ _ σ => ⌜σ.pending = L⌝, fun _ σ => ⌜σ.pending = L⌝⟩⦄ := by
  have hp := ebayPages_inFlight L account
  have ho := Pipeline.applyRawOrders_inFlight L account
  have hs := Pipeline.applyStock_inFlight L account
  mvcgen [ebay, ebayOrders, ebayItems, hp, ho, hs, SyncM.attempt,
    -Pipeline.applyRawOrders_sound, -Pipeline.applyStock_sound, -SyncM.forIn_good,
    -SyncM.forIn_holds, -SyncM.forIn_soundWith] with grind

theorem amazon_inFlight (account : ChannelAccount) (since : Instant) :
    ⦃fun _ σ => ⌜σ.pending = L⌝⦄ amazon account since
      ⦃post⟨fun _ _ σ => ⌜σ.pending = L⌝, fun _ σ => ⌜σ.pending = L⌝⟩⦄ := by
  have hp := amazonPages_inFlight L account
  have ho := Pipeline.applyRawOrders_inFlight L account
  mvcgen [amazon, amazonOrders, amazonItems, hp, ho, SyncM.attempt, -Pipeline.applyRawOrders_sound,
    -SyncM.forIn_good, -SyncM.forIn_holds,
    -SyncM.forIn_soundWith] with grind

theorem refreshAccount_inFlight (id : Uuid) :
    ⦃fun _ σ => ⌜σ.pending = L⌝⦄ refreshAccount id
      ⦃post⟨fun _ _ σ => ⌜σ.pending = L⌝, fun _ σ => ⌜σ.pending = L⌝⟩⦄ := by
  have hs := shopify_inFlight L
  have he := ebay_inFlight L
  have ha := amazon_inFlight L
  mvcgen [refreshAccount, marketplacePull, conclude, hs, he, ha, SyncM.attempt, SyncM.expect,
    -refreshAccount_sound]

end Pull

namespace Connect

theorem connectedAccount_inFlight (m : Marketplace) (t : OAuthTransaction)
    (params : CallbackParams) (update : TokenUpdate) :
    ⦃fun _ σ => ⌜σ.pending = L⌝⦄ connectedAccount m t params update
      ⦃post⟨fun _ _ σ => ⌜σ.pending = L⌝, fun _ σ => ⌜σ.pending = L⌝⟩⦄ := by
  mvcgen [connectedAccount]
  case' vc2.h_1.h_2 | vc5.h_2.h_2 => split <;> mvcgen

theorem settle_inFlight (request : NewAuthorization) (k : Nat) :
    ⦃fun _ σ => ⌜σ.pending = L ∧ σ.readings = k⌝⦄ settle request
      ⦃post⟨fun _ _ σ => ⌜σ.pending = L ∧ σ.readings = k⌝, fun _ σ => ⌜σ.pending = L⌝⟩⦄ := by
  mvcgen [settle] with simp_all

-- the purge stays folded until the conditions are generated
attribute [local irreducible] OAuthTransaction.enter in
theorem issue_inFlight (request : NewAuthorization) (k : Nat) :
    ⦃fun _ σ => ⌜σ.pending = L ∧ σ.readings = k⌝⦄ issue request
      ⦃post⟨fun t c σ => ⌜σ.pending =
          OAuthTransaction.enter L (Service.readingOf c.origin (k + 2)) t⌝,
        fun _ σ => ⌜σ.pending = L⌝⟩⦄ := by
  mvcgen [issue]
  case vc1.h_1 =>
    obtain ⟨rfl, rfl⟩ := ‹_ ∧ _›
    unfold OAuthTransaction.enter
    rfl
  case vc2.h_2 => exact ‹_ ∧ _›.1

theorem begin_inFlight (request : NewAuthorization) (k : Nat) :
    ⦃fun _ σ => ⌜σ.pending = L ∧ σ.readings = k⌝⦄ begin request
      ⦃post⟨fun st c σ => ⌜σ.pending =
          OAuthTransaction.enter L (Service.readingOf c.origin (k + 2)) st.transaction⌝,
        fun _ σ => ⌜σ.pending = L⌝⟩⦄ := by
  have hs := settle_inFlight L request k
  have hi := issue_inFlight L
  mvcgen [begin, hs, hi, -begin_sound]

theorem consume_inFlight (nonce : String) (m : Marketplace) :
    ⦃fun _ σ => ⌜σ.pending = L⌝⦄ consume nonce m
      ⦃post⟨fun _ _ σ => ⌜σ.pending = OAuthTransaction.burn L nonce⌝,
        fun _ σ => ⌜σ.pending = OAuthTransaction.burn L nonce⌝⟩⦄ := by
  mvcgen [consume, SyncM.expect] with simp_all

-- the shop check only compares domains; its parser stays folded so the conditions stay small
attribute [local irreducible] Consent.shopDomain? in
theorem authorize_inFlight (m : Marketplace) (params : CallbackParams) :
    ⦃fun _ σ => ⌜σ.pending = L⌝⦄ authorize m params
      ⦃post⟨fun _ _ σ => ⌜σ.pending = params.state.elim L (OAuthTransaction.burn L)⌝,
        fun _ σ => ⌜σ.pending = params.state.elim L (OAuthTransaction.burn L)⌝⟩⦄ := by
  have hc := consume_inFlight L
  mvcgen [authorize, hc] with simp_all
  rename_i state _ _ hnone _ _
  cases state with
  | none => rfl
  | some n => exact absurd rfl (hnone n)

theorem complete_inFlight (m : Marketplace) (params : CallbackParams) :
    ⦃fun _ σ => ⌜σ.pending = L⌝⦄ complete m params
      ⦃post⟨fun _ _ σ => ⌜σ.pending = params.state.elim L (OAuthTransaction.burn L)⌝,
        fun _ σ => ⌜σ.pending = params.state.elim L (OAuthTransaction.burn L)⌝⟩⦄ := by
  have ha := authorize_inFlight L m params
  have hx := Credential.exchangeCode_inFlight (params.state.elim L (OAuthTransaction.burn L))
  have hc := connectedAccount_inFlight (params.state.elim L (OAuthTransaction.burn L)) m
  have hr := Subscriptions.register_inFlight (params.state.elim L (OAuthTransaction.burn L))
  have hp := Pull.refreshAccount_inFlight (params.state.elim L (OAuthTransaction.burn L))
  mvcgen [complete, ha, hx, hc, hr, hp, SyncM.expect, SyncM.attempt, -complete_sound, -Subscriptions.register_sound,
    -Pull.refreshAccount_sound]

end Connect

end SellerSync
