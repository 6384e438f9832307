import Mathlib
import SellerSync.Sync.Connect
import SellerSync.Amazon.Inbound
import SellerSync.Rates.Cache
import SellerSync.Proofs.Sound
import SellerSync.Proofs.Primitives
/-! What each call writes: one triple per call, over every property of the store and the ids
handed out that survives the writes the call makes, whether the call succeeds or fails. -/
open Std.Do

set_option mvcgen.warning false

namespace SellerSync

open Service

variable {P : Nat → Store → Prop}

/-- The store has property `P` for the ids handed out so far. -/
def Service.Has (P : Nat → Store → Prop) (σ : Service) : Prop := P σ.issued σ.store

namespace Store

/-- The property survives a stored account's new tokens. -/
def TokensKept (P : Nat → Store → Prop) : Prop :=
  ∀ (n : Nat) (s : Store) (id : Uuid) (u : TokenUpdate) (now : Instant)
    (r : ChannelAccount × Store), P n s → s.applyTokenUpdate id u now=.ok r → P n r.2

/-- A property that survives handing out an id and each write of the ingestion pipeline, under
the id it has just handed out or onto a row that exists; the audit projection, which rewrites an
order's lines one by one, is asked of as a whole call. -/
structure Ingests (P : Nat → Store → Prop) : Prop where
  succ : ∀ {n : Nat} {s : Store}, P n s → P (n+1) s
  upsertItem : ∀ {n : Nat} {s : Store} {seller : Uuid} {sku title : String} {now : Instant},
    P n s → P (n+1) (s.upsertItem seller sku title (idOf (n+1)) now).2
  upsertItemLink : ∀ {n : Nat} {s : Store} {account : ChannelAccount} {link : NewItemLink}
    {now : Instant}, P n s → P (n+1) (s.upsertItemLink account link (idOf (n+1)) now).2
  touchItemLink : ∀ {n : Nat} {s : Store} {id : Uuid} {now : Instant}, P n s →
    P n (s.touchItemLink id now)
  resolveCustomer : ∀ {n : Nat} {s : Store} {seller account : Uuid} {ext : Option String}
    {cand : CustomerCandidate} {now : Instant}, P n s →
    P (n+1) (s.resolveCustomer seller account ext cand (idOf (n+1)) now).2
  upsertCustomerLink : ∀ {n : Nat} {s : Store} {account : ChannelAccount} {customer : Uuid}
    {ext : String} {raw : Json} {now : Instant}, P n s →
    P (n+1) (s.upsertCustomerLink account customer ext raw (idOf (n+1)) now).2
  upsertOrder : ∀ {n : Nat} {s : Store} {o : StoredOrder}, P n s → o.id=idOf (n+1) →
    P (n+1) (s.upsertOrder o).2
  upsertLine : ∀ {n : Nat} {s : Store} {l : StoredLine}, P n s → l.id=idOf (n+1) →
    P (n+1) (s.upsertLine l).2
  upsertStock : ∀ {n : Nat} {s : Store} {item account : Uuid} {location : Option String}
    {available : Int} {now : Instant}, P n s →
    P (n+1) (s.upsertStock item account location available (idOf (n+1)) now).2
  projectAudit : ∀ (a : ChannelAccount) (stored : StoredOrder) (o : IncomingOrder)
    (src : IngestSource), ⦃fun _ σ => ⌜σ.Has P⌝⦄ Pipeline.projectAudit a stored o src
      ⦃post⟨fun _ _ σ => ⌜σ.Has P⌝, fun _ σ => ⌜σ.Has P⌝⟩⦄

/-- A property of sound stores that survives every write of the service: the pipeline's, those
of accounts, quotes, inbound shipments and erasures, and the recording of a label as a whole
call. -/
structure Writes (N : Nat) (P : Nat → Store → Prop) : Prop extends Ingests P where
  sound : ∀ {n : Nat} {s : Store}, P n s → s.SoundUpTo N n
  tokens : TokensKept P
  markSynced : ∀ {n : Nat} {s s' : Store} {id : Uuid} {at_ : Instant}, P n s →
    s.markSynced id at_=.ok s' → P n s'
  setAccountStatus : ∀ {n : Nat} {s s' : Store} {id : Uuid} {st : AccountStatus} {now : Instant},
    P n s → s.setAccountStatus id st now=.ok s' → P n s'
  upsertAccount : ∀ {n : Nat} {s : Store} {a : ChannelAccount} {now : Instant}, P n s →
    IssuedUpTo N n a.id → P n (s.upsertAccount a now).2
  deleteAccount : ∀ {n : Nat} {s : Store} {id seller : Uuid} {r : Bool × Store}, P n s →
    s.deleteAccount id seller=.ok r → P n r.2
  upsertQuote : ∀ {n : Nat} {s : Store} {q : CachedQuote}, P n s → q.id=idOf (n+1) →
    P (n+1) (s.upsertQuote q).2
  upsertInbound : ∀ {n : Nat} {s : Store} {x : InboundShipment} {now : Instant}, P n s →
    x.id=idOf (n+1) → P (n+1) (s.upsertInbound x now).2
  recordInboundLabels : ∀ {n : Nat} {s s' : Store} {account : Uuid} {shipmentId : String}
    {labels : InboundLabels} {now : Instant} {x : InboundShipment}, P n s →
    s.recordInboundLabels account shipmentId labels now=some (x, s') → P n s'
  eraseIdentity : ∀ {n : Nat} {s : Store} {m : Marketplace} {ext : String} {now : Instant},
    P n s → P (n+1) (s.eraseIdentity m ext (idOf (n+1)) now).2
  recordLabel : ∀ (a : ChannelAccount) (input : LabelInput),
    ⦃fun _ σ => ⌜σ.Has P⌝⦄ Pipeline.recordLabel a input
      ⦃post⟨fun _ _ σ => ⌜σ.Has P⌝, fun _ σ => ⌜σ.Has P⌝⟩⦄

end Store

theorem SyncM.forIn_has (P : Nat → Store → Prop) {α β : Type} {xs : List α} {init : β}
    {f : α → β → SyncM (ForInStep β)}
    (step : ∀ x b, ⦃fun _ σ => ⌜σ.Has P⌝⦄ f x b
      ⦃post⟨fun _ _ σ => ⌜σ.Has P⌝, fun _ σ => ⌜σ.Has P⌝⟩⦄) :
    ⦃fun _ σ => ⌜σ.Has P⌝⦄ forIn xs init f
      ⦃post⟨fun _ _ σ => ⌜σ.Has P⌝, fun _ σ => ⌜σ.Has P⌝⟩⦄ := by
  mvcgen [step] invariants
    · post⟨fun _ _ σ => ⌜σ.Has P⌝, fun _ σ => ⌜σ.Has P⌝⟩
  with
  | vc2 => exact id
  | vc5 r =>
    intro _ _ h
    cases r <;> exact h

attribute [local spec high] SyncM.forIn_has

/-! ### Calls that write nothing

These talk to the network, read the settings or the store, or keep authorizations in flight. -/

namespace TokenEndpoint

theorem post_preserves (url : String) (headers : List (String × String)) (body : String) :
    ⦃fun _ σ => ⌜σ.Has P⌝⦄ post url headers body
      ⦃post⟨fun _ _ σ => ⌜σ.Has P⌝, fun _ σ => ⌜σ.Has P⌝⟩⦄ := by
  mvcgen [post, SyncM.expect]

theorem shopify_preserves (c : ShopifySettings) (shop : String) (body : Json) :
    ⦃fun _ σ => ⌜σ.Has P⌝⦄ shopify c shop body
      ⦃post⟨fun _ _ σ => ⌜σ.Has P⌝, fun _ σ => ⌜σ.Has P⌝⟩⦄ := by
  have hp := @post_preserves P
  mvcgen [shopify, hp]

theorem ebay_preserves (c : EbaySettings) (form : List (String × String)) :
    ⦃fun _ σ => ⌜σ.Has P⌝⦄ ebay c form
      ⦃post⟨fun _ _ σ => ⌜σ.Has P⌝, fun _ σ => ⌜σ.Has P⌝⟩⦄ := by
  have hp := @post_preserves P
  mvcgen [ebay, hp]

theorem amazon_preserves (c : AmazonSettings) (form : List (String × String)) :
    ⦃fun _ σ => ⌜σ.Has P⌝⦄ amazon c form
      ⦃post⟨fun _ _ σ => ⌜σ.Has P⌝, fun _ σ => ⌜σ.Has P⌝⟩⦄ := by
  have hp := @post_preserves P
  mvcgen [amazon, hp]

end TokenEndpoint

theorem Credential.exchangeCode_preserves (t : OAuthTransaction) (code : String) :
    ⦃fun _ σ => ⌜σ.Has P⌝⦄ Credential.exchangeCode t code
      ⦃post⟨fun _ _ σ => ⌜σ.Has P⌝, fun _ σ => ⌜σ.Has P⌝⟩⦄ := by
  have hs := @TokenEndpoint.shopify_preserves P
  have he := @TokenEndpoint.ebay_preserves P
  have ha := @TokenEndpoint.amazon_preserves P
  mvcgen [Credential.exchangeCode, TokenEndpoint.shopifyExchange, TokenEndpoint.ebayExchange,
    TokenEndpoint.amazonExchange, hs, he, ha]

namespace Executor

theorem baseUrl_preserves (account : ChannelAccount) :
    ⦃fun _ σ => ⌜σ.Has P⌝⦄ baseUrl account
      ⦃post⟨fun _ _ σ => ⌜σ.Has P⌝, fun _ σ => ⌜σ.Has P⌝⟩⦄ := by
  mvcgen [baseUrl]

theorem buildUrl_preserves (account : ChannelAccount) (req : ApiRequest) :
    ⦃fun _ σ => ⌜σ.Has P⌝⦄ buildUrl account req
      ⦃post⟨fun _ _ σ => ⌜σ.Has P⌝, fun _ σ => ⌜σ.Has P⌝⟩⦄ := by
  have hb := @baseUrl_preserves P
  mvcgen -trivial [buildUrl, hb] with assumption

theorem sendOnce_preserves (account : ChannelAccount) (req : ApiRequest) (url : Url)
    (body : Option (List UInt8)) (token : String) :
    ⦃fun _ σ => ⌜σ.Has P⌝⦄ sendOnce account req url body token
      ⦃post⟨fun _ _ σ => ⌜σ.Has P⌝, fun _ σ => ⌜σ.Has P⌝⟩⦄ := by
  mvcgen [sendOnce, SyncM.expect]

theorem attemptFrom_preserves (send : SyncM Attempt)
    (hs : ⦃fun _ σ => ⌜σ.Has P⌝⦄ send
      ⦃post⟨fun _ _ σ => ⌜σ.Has P⌝, fun _ σ => ⌜σ.Has P⌝⟩⦄)
    (attempt left : Nat) :
    ⦃fun _ σ => ⌜σ.Has P⌝⦄ attemptFrom send attempt left
      ⦃post⟨fun _ _ σ => ⌜σ.Has P⌝, fun _ σ => ⌜σ.Has P⌝⟩⦄ := by
  induction left generalizing attempt with
  | zero => mvcgen [attemptFrom, hs]
  | succ l ih => mvcgen [attemptFrom, hs, ih]

end Executor

namespace QuoteProvider

theorem postJson_preserves (who url : String) (headers : List (String × String)) (body : Json) :
    ⦃fun _ σ => ⌜σ.Has P⌝⦄ postJson who url headers body
      ⦃post⟨fun _ _ σ => ⌜σ.Has P⌝, fun _ σ => ⌜σ.Has P⌝⟩⦄ := by
  mvcgen [postJson]

theorem quote_preserves (p : QuoteProvider) (request : QuoteRequest) :
    ⦃fun _ σ => ⌜σ.Has P⌝⦄ p.quote request
      ⦃post⟨fun _ _ σ => ⌜σ.Has P⌝, fun _ σ => ⌜σ.Has P⌝⟩⦄ := by
  have hp := @postJson_preserves P
  mvcgen [quote, rateApiQuote, shippoQuote, hp, SyncM.expect]

end QuoteProvider

namespace Connect

theorem begin_preserves (request : NewAuthorization) :
    ⦃fun _ σ => ⌜σ.Has P⌝⦄ begin request
      ⦃post⟨fun _ _ σ => ⌜σ.Has P⌝, fun _ σ => ⌜σ.Has P⌝⟩⦄ := by
  mvcgen [begin, settle, issue]

theorem consume_preserves (nonce : String) (m : Marketplace) :
    ⦃fun _ σ => ⌜σ.Has P⌝⦄ consume nonce m
      ⦃post⟨fun _ _ σ => ⌜σ.Has P⌝, fun _ σ => ⌜σ.Has P⌝⟩⦄ := by
  mvcgen [consume, SyncM.expect]

-- the shop check only compares domains; its parser stays folded so the conditions stay small
attribute [local irreducible] Consent.shopDomain? in
theorem authorize_preserves (m : Marketplace) (params : CallbackParams) :
    ⦃fun _ σ => ⌜σ.Has P⌝⦄ authorize m params
      ⦃post⟨fun _ _ σ => ⌜σ.Has P⌝, fun _ σ => ⌜σ.Has P⌝⟩⦄ := by
  have hc := @consume_preserves P
  mvcgen [authorize, hc, SyncM.expect]

end Connect

/-! ### Calls that write tokens, quotes and inbound shipments -/

section

variable (ht : Store.TokensKept P)
include ht

theorem Credential.acquire_preserves (id : Uuid) :
    ⦃fun _ σ => ⌜σ.Has P⌝⦄ Credential.acquire id
      ⦃post⟨fun _ _ σ => ⌜σ.Has P⌝, fun _ σ => ⌜σ.Has P⌝⟩⦄ := by
  have hs := @TokenEndpoint.shopify_preserves P
  have he := @TokenEndpoint.ebay_preserves P
  have ha := @TokenEndpoint.amazon_preserves P
  mvcgen [Credential.acquire, Credential.renew, Credential.refreshGrant, SyncM.expect,
    SyncM.onStoreE, TokenEndpoint.shopifyRefresh, TokenEndpoint.ebayRefresh,
    TokenEndpoint.amazonRefresh, hs, he, ha] with
    exact ht _ _ _ _ _ _ ‹_› ‹_›

theorem Executor.execute_preserves (account : ChannelAccount) (req : ApiRequest) :
    ⦃fun _ σ => ⌜σ.Has P⌝⦄ Executor.execute account req
      ⦃post⟨fun _ _ σ => ⌜σ.Has P⌝, fun _ σ => ⌜σ.Has P⌝⟩⦄ := by
  have hq := Credential.acquire_preserves ht
  have hb := @Executor.buildUrl_preserves P
  have ha := @Executor.attemptFrom_preserves P
  have hs := @Executor.sendOnce_preserves P
  mvcgen [Executor.execute, hb, ha, hs, hq]

theorem Subscriptions.register_preserves (account : ChannelAccount) (address : String) :
    ⦃fun _ σ => ⌜σ.Has P⌝⦄ Subscriptions.register account address
      ⦃post⟨fun _ _ σ => ⌜σ.Has P⌝, fun _ σ => ⌜σ.Has P⌝⟩⦄ := by
  have he := Executor.execute_preserves ht
  mvcgen [Subscriptions.register, Pull.adminPath, SyncM.attempt, he]

-- the shipment id checks only trim the request's fields; trimming stays folded
attribute [local irreducible] Text.trim in
theorem Amazon.createInboundShipment_preserves
    (hi : ∀ {n : Nat} {s : Store} {x : InboundShipment} {now : Instant}, P n s →
      x.id=idOf (n+1) → P (n+1) (s.upsertInbound x now).2)
    (account : ChannelAccount) (request : InboundShipmentRequest) :
    ⦃fun _ σ => ⌜σ.Has P⌝⦄ Amazon.createInboundShipment account request
      ⦃post⟨fun _ _ σ => ⌜σ.Has P⌝, fun _ σ => ⌜σ.Has P⌝⟩⦄ := by
  have he := Executor.execute_preserves ht
  mvcgen [Amazon.createInboundShipment, he] with solve_by_elim [hi]

theorem Amazon.fetchInboundLabels_preserves
    (hr : ∀ {n : Nat} {s s' : Store} {account : Uuid} {shipmentId : String}
      {labels : InboundLabels} {now : Instant} {x : InboundShipment}, P n s →
      s.recordInboundLabels account shipmentId labels now=some (x, s') → P n s')
    (account : ChannelAccount) (shipmentId : String) (request : LabelRequest) :
    ⦃fun _ σ => ⌜σ.Has P⌝⦄ Amazon.fetchInboundLabels account shipmentId request
      ⦃post⟨fun _ _ σ => ⌜σ.Has P⌝, fun _ σ => ⌜σ.Has P⌝⟩⦄ := by
  have he := Executor.execute_preserves ht
  mvcgen [Amazon.fetchInboundLabels, he] with exact hr ‹_› ‹_›

namespace Pull

theorem ebayPages_preserves (account : ChannelAccount) (field : String) (fuel : Nat)
    (req : ApiRequest) (acc : List Json) :
    ⦃fun _ σ => ⌜σ.Has P⌝⦄ ebayPages account field fuel req acc
      ⦃post⟨fun _ _ σ => ⌜σ.Has P⌝, fun _ σ => ⌜σ.Has P⌝⟩⦄ := by
  have he := Executor.execute_preserves ht
  induction fuel generalizing req acc with
  | zero => mvcgen [ebayPages]
  | succ fuel ih => mvcgen [ebayPages, ih, he]

theorem amazonPages_preserves (account : ChannelAccount) (path field : String) (fuel : Nat)
    (req : ApiRequest) (acc : List Json) :
    ⦃fun _ σ => ⌜σ.Has P⌝⦄ amazonPages account path field fuel req acc
      ⦃post⟨fun _ _ σ => ⌜σ.Has P⌝, fun _ σ => ⌜σ.Has P⌝⟩⦄ := by
  have he := Executor.execute_preserves ht
  induction fuel generalizing req acc with
  | zero => mvcgen [amazonPages]
  | succ fuel ih => mvcgen [amazonPages, ih, he]

end Pull

end

theorem QuoteCache.getOrCreate_preserves
    (hq : ∀ {n : Nat} {s : Store} {q : CachedQuote}, P n s → q.id=idOf (n+1) →
      P (n+1) (s.upsertQuote q).2)
    (request : QuoteRequest) (fetch : SyncM FetchedQuote)
    (hf : ⦃fun _ σ => ⌜σ.Has P⌝⦄ fetch
      ⦃post⟨fun _ _ σ => ⌜σ.Has P⌝, fun _ σ => ⌜σ.Has P⌝⟩⦄) :
    ⦃fun _ σ => ⌜σ.Has P⌝⦄ QuoteCache.getOrCreate request fetch
      ⦃post⟨fun _ _ σ => ⌜σ.Has P⌝, fun _ σ => ⌜σ.Has P⌝⟩⦄ := by
  mvcgen [QuoteCache.getOrCreate, QuoteCache.lookup, QuoteCache.keep, hf] with
    solve_by_elim [hq]

/-! ### The pipeline -/

namespace Pipeline

theorem projectAudit_preserves (hs : ∀ {n : Nat} {s : Store}, P n s → P (n+1) s)
    (ha : ∀ {n : Nat} {s : Store} {x : AuditLine}, P (n+1) s → x.id=idOf (n+1) →
      P (n+1) (s.upsertAudit x).2)
    (a : ChannelAccount) (stored : StoredOrder) (o : IncomingOrder) (src : IngestSource) :
    ⦃fun _ σ => ⌜σ.Has P⌝⦄ projectAudit a stored o src
      ⦃post⟨fun _ _ σ => ⌜σ.Has P⌝, fun _ σ => ⌜σ.Has P⌝⟩⦄ := by
  mvcgen [projectAudit, SyncM.expect] with solve_by_elim [hs, ha]

variable (hP : Store.Ingests P)
include hP

theorem resolveCustomer_preserves (a : ChannelAccount) (o : IncomingOrder) :
    ⦃fun _ σ => ⌜σ.Has P⌝⦄ resolveCustomer a o
      ⦃post⟨fun _ _ σ => ⌜σ.Has P⌝, fun _ σ => ⌜σ.Has P⌝⟩⦄ := by
  mvcgen [resolveCustomer] with solve_by_elim [hP.resolveCustomer, hP.upsertCustomerLink]

theorem resolveLineItem_preserves (a : ChannelAccount) (line : IncomingLine) :
    ⦃fun _ σ => ⌜σ.Has P⌝⦄ resolveLineItem a line
      ⦃post⟨fun _ _ σ => ⌜σ.Has P⌝, fun _ σ => ⌜σ.Has P⌝⟩⦄ := by
  mvcgen [resolveLineItem] with
    solve_by_elim [hP.touchItemLink, hP.upsertItem, hP.upsertItemLink]

theorem applyOrder_preserves (a : ChannelAccount) (o : IncomingOrder) (src : IngestSource) :
    ⦃fun _ σ => ⌜σ.Has P⌝⦄ applyOrder a o src
      ⦃post⟨fun _ _ σ => ⌜σ.Has P⌝, fun _ σ => ⌜σ.Has P⌝⟩⦄ := by
  have hc := resolveCustomer_preserves hP a o
  have hl := resolveLineItem_preserves hP a
  have hp := hP.projectAudit a
  mvcgen [applyOrder, hc, hl, hp] with solve_by_elim [hP.upsertOrder, hP.upsertLine]

theorem applyRawOrders_preserves (a : ChannelAccount) (orders : List RawOrder)
    (src : IngestSource) :
    ⦃fun _ σ => ⌜σ.Has P⌝⦄ applyRawOrders a orders src
      ⦃post⟨fun _ _ σ => ⌜σ.Has P⌝, fun _ σ => ⌜σ.Has P⌝⟩⦄ := by
  have ho := applyOrder_preserves hP a
  mvcgen [applyRawOrders, ho]

theorem applyProduct_preserves (a : ChannelAccount) (p : IncomingProduct) :
    ⦃fun _ σ => ⌜σ.Has P⌝⦄ applyProduct a p
      ⦃post⟨fun _ _ σ => ⌜σ.Has P⌝, fun _ σ => ⌜σ.Has P⌝⟩⦄ := by
  mvcgen [applyProduct] with solve_by_elim [hP.upsertItem, hP.upsertItemLink]

theorem applyStock_preserves (a : ChannelAccount) (st : IncomingStock) :
    ⦃fun _ σ => ⌜σ.Has P⌝⦄ applyStock a st
      ⦃post⟨fun _ _ σ => ⌜σ.Has P⌝, fun _ σ => ⌜σ.Has P⌝⟩⦄ := by
  mvcgen [applyStock] with
    solve_by_elim [hP.touchItemLink, hP.upsertItem, hP.upsertItemLink, hP.upsertStock]

end Pipeline

/-! ### Pulls -/

namespace Pull

section

variable (ht : Store.TokensKept P)
include ht

theorem shopify_preserves (account : ChannelAccount) (since : Instant)
    (hp : ∀ p, ⦃fun _ σ => ⌜σ.Has P⌝⦄ Pipeline.applyProduct account p
      ⦃post⟨fun _ _ σ => ⌜σ.Has P⌝, fun _ σ => ⌜σ.Has P⌝⟩⦄)
    (ho : ∀ orders src, ⦃fun _ σ => ⌜σ.Has P⌝⦄
      Pipeline.applyRawOrders account orders src
      ⦃post⟨fun _ _ σ => ⌜σ.Has P⌝, fun _ σ => ⌜σ.Has P⌝⟩⦄)
    (hs : ∀ st, ⦃fun _ σ => ⌜σ.Has P⌝⦄ Pipeline.applyStock account st
      ⦃post⟨fun _ _ σ => ⌜σ.Has P⌝, fun _ σ => ⌜σ.Has P⌝⟩⦄) :
    ⦃fun _ σ => ⌜σ.Has P⌝⦄ shopify account since
      ⦃post⟨fun _ _ σ => ⌜σ.Has P⌝, fun _ σ => ⌜σ.Has P⌝⟩⦄ := by
  have he := Executor.execute_preserves ht
  mvcgen [shopify, shopifyProducts, shopifyOrders, shopifyLevels, adminPath, SyncM.attempt, he,
    hp, ho, hs]

theorem ebay_preserves (account : ChannelAccount) (since : Instant)
    (ho : ∀ orders src, ⦃fun _ σ => ⌜σ.Has P⌝⦄
      Pipeline.applyRawOrders account orders src
      ⦃post⟨fun _ _ σ => ⌜σ.Has P⌝, fun _ σ => ⌜σ.Has P⌝⟩⦄)
    (hs : ∀ st, ⦃fun _ σ => ⌜σ.Has P⌝⦄ Pipeline.applyStock account st
      ⦃post⟨fun _ _ σ => ⌜σ.Has P⌝, fun _ σ => ⌜σ.Has P⌝⟩⦄) :
    ⦃fun _ σ => ⌜σ.Has P⌝⦄ ebay account since
      ⦃post⟨fun _ _ σ => ⌜σ.Has P⌝, fun _ σ => ⌜σ.Has P⌝⟩⦄ := by
  have hp := ebayPages_preserves ht account
  mvcgen [ebay, ebayOrders, ebayItems, hp, ho, hs, SyncM.attempt]

theorem amazon_preserves (account : ChannelAccount) (since : Instant)
    (ho : ∀ orders src, ⦃fun _ σ => ⌜σ.Has P⌝⦄
      Pipeline.applyRawOrders account orders src
      ⦃post⟨fun _ _ σ => ⌜σ.Has P⌝, fun _ σ => ⌜σ.Has P⌝⟩⦄) :
    ⦃fun _ σ => ⌜σ.Has P⌝⦄ amazon account since
      ⦃post⟨fun _ _ σ => ⌜σ.Has P⌝, fun _ σ => ⌜σ.Has P⌝⟩⦄ := by
  have hp := amazonPages_preserves ht account
  mvcgen [amazon, amazonOrders, amazonItems, hp, ho, SyncM.attempt]

theorem marketplacePull_preserves (hP : Store.Ingests P) (account : ChannelAccount)
    (since : Instant) :
    ⦃fun _ σ => ⌜σ.Has P⌝⦄ marketplacePull account since
      ⦃post⟨fun _ _ σ => ⌜σ.Has P⌝, fun _ σ => ⌜σ.Has P⌝⟩⦄ := by
  have ho := Pipeline.applyRawOrders_preserves hP account
  have hs := Pipeline.applyStock_preserves hP account
  unfold marketplacePull
  split
  · exact shopify_preserves ht account since (Pipeline.applyProduct_preserves hP account) ho hs
  · exact ebay_preserves ht account since ho hs
  · exact amazon_preserves ht account since ho

theorem refreshAccount_preserves (hP : Store.Ingests P)
    (hm : ∀ {n : Nat} {s s' : Store} {id : Uuid} {at_ : Instant}, P n s →
      s.markSynced id at_=.ok s' → P n s')
    (hst : ∀ {n : Nat} {s s' : Store} {id : Uuid} {st : AccountStatus} {now : Instant}, P n s →
      s.setAccountStatus id st now=.ok s' → P n s')
    (id : Uuid) :
    ⦃fun _ σ => ⌜σ.Has P⌝⦄ refreshAccount id
      ⦃post⟨fun _ _ σ => ⌜σ.Has P⌝, fun _ σ => ⌜σ.Has P⌝⟩⦄ := by
  have hp := marketplacePull_preserves ht hP
  mvcgen [refreshAccount, conclude, hp, SyncM.attempt, SyncM.expect] with
    first
    | exact hm ‹_› ‹_›
    | exact hst ‹_› ‹_›

end

end Pull

/-! ### Connecting an account -/

namespace Connect

theorem issuedUpTo_of_found {N : Nat} {σ : Service} (h : σ.Good N) {seller : Uuid}
    {m : Marketplace} {p : ChannelAccount → Bool} {a : ChannelAccount}
    (hk : (σ.store.accountsForSeller seller m).find? p=some a) : IssuedUpTo N σ.issued a.id :=
  Store.SoundUpTo.issuedUpTo_of_mem_accounts h
    (List.mem_filter.1 (List.mem_mergeSort.1 (List.mem_of_find?_eq_some hk))).1

theorem connectedAccount_preserves {N : Nat} (hsound : ∀ {n : Nat} {s : Store}, P n s →
      s.SoundUpTo N n)
    (hs : ∀ {n : Nat} {s : Store}, P n s → P (n+1) s)
    (m : Marketplace) (t : OAuthTransaction) (params : CallbackParams) (update : TokenUpdate) :
    ⦃fun _ σ => ⌜σ.Has P⌝⦄ connectedAccount m t params update
      ⦃post⟨fun a _ σ => ⌜σ.Has P ∧ IssuedUpTo N σ.issued a.id⌝,
        fun _ σ => ⌜σ.Has P⌝⟩⦄ := by
  mvcgen [connectedAccount]
  -- eBay fills in its default marketplace id when the account has none; the id stays
  case' vc2.h_1.h_2 | vc5.h_2.h_2 => split <;> mvcgen
  case vc1.h_1.h_1 | vc3.h_1.h_3 | vc2.h_1.h_2.isTrue | vc2.h_1.h_2.isFalse =>
    refine ⟨‹P _ _›, ?_⟩
    simp +zetaDelta only [apply_ite ChannelAccount.id, ite_self]
    exact issuedUpTo_of_found (hsound ‹P _ _›) ‹_ = some _›
  all_goals
    refine ⟨hs ‹P _ _›, ?_⟩
    simp +zetaDelta only [apply_ite ChannelAccount.id, ite_self]
    exact issuedUpTo_next

theorem complete_preserves {N : Nat} (hW : Store.Writes N P) (m : Marketplace)
    (params : CallbackParams) :
    ⦃fun _ σ => ⌜σ.Has P⌝⦄ complete m params
      ⦃post⟨fun _ _ σ => ⌜σ.Has P⌝, fun _ σ => ⌜σ.Has P⌝⟩⦄ := by
  have hz := @authorize_preserves P
  have hx := @Credential.exchangeCode_preserves P
  have ha := connectedAccount_preserves hW.sound hW.succ
  have hr := Subscriptions.register_preserves hW.tokens
  have hp := Pull.refreshAccount_preserves hW.tokens hW.toIngests hW.markSynced
    hW.setAccountStatus
  mvcgen [complete, hz, hx, ha, hr, hp, SyncM.expect, SyncM.attempt] with
    solve_by_elim [hW.upsertAccount, And.left, And.right]

end Connect

end SellerSync
