import Mathlib
import SellerSync.Proofs.Writes
/-! Runs of the service from an empty one. Every operation keeps the service sound, so a reachable
store is keyed while the ids handed out are distinct. -/
open Std.Do

set_option mvcgen.warning false

namespace SellerSync

open Service

/-- The library's operations on a service, with what each is called with. A quote is fetched
from a provider or taken from an answer given by the caller. -/
inductive Operation where
  | registerAccount (a : ChannelAccount)
  | beginAuthorization (request : NewAuthorization)
  | completeAuthorization (m : Marketplace) (params : CallbackParams)
  | tokenUpdate (id : Uuid) (u : TokenUpdate)
  | setStatus (id : Uuid) (status : AccountStatus)
  | markSynced (id : Uuid) (at_ : Instant)
  | disconnect (id seller : Uuid)
  | refreshAccount (id : Uuid)
  | applyOrder (a : ChannelAccount) (o : IncomingOrder) (src : IngestSource)
  | applyRawOrders (a : ChannelAccount) (orders : List RawOrder) (src : IngestSource)
  | applyProduct (a : ChannelAccount) (p : IncomingProduct)
  | applyInventory (a : ChannelAccount) (stock : IncomingStock)
  | recordLabel (a : ChannelAccount) (input : LabelInput)
  | quote (request : QuoteRequest) (p : QuoteProvider)
  | quoteWith (request : QuoteRequest) (answer : Except SyncError FetchedQuote)
  | createInboundShipment (a : ChannelAccount) (request : Amazon.InboundShipmentRequest)
  | fetchInboundLabels (a : ChannelAccount) (shipmentId : String)
      (request : Amazon.LabelRequest)
  | erase (m : Marketplace) (externalId : String)

namespace Operation

open SyncM

/-- The call an operation makes, its answer dropped. An account is registered under a fresh id. -/
def run : Operation → SyncM Unit
  | registerAccount a => do
    let id ← freshId
    let stamp ← now
    discard <| onStore (·.upsertAccount { a with id } stamp)
  | beginAuthorization request => discard <| Connect.begin request
  | completeAuthorization m params => discard <| Connect.complete m params
  | tokenUpdate id u => do
    let at_ ← now
    discard <| onStoreE (·.applyTokenUpdate id u at_)
  | setStatus id status => do
    let at_ ← now
    setStore (← expect ((← store).setAccountStatus id status at_))
  | markSynced id at_ => do setStore (← expect ((← store).markSynced id at_))
  | disconnect id seller => discard <| onStoreE (·.deleteAccount id seller)
  | refreshAccount id => discard <| Pull.refreshAccount id
  | applyOrder a o src => discard <| Pipeline.applyOrder a o src
  | applyRawOrders a orders src => discard <| Pipeline.applyRawOrders a orders src
  | applyProduct a p => discard <| Pipeline.applyProduct a p
  | applyInventory a stock => discard <| Pipeline.applyStock a stock
  | recordLabel a input => discard <| Pipeline.recordLabel a input
  | quote request p => discard <| QuoteCache.getOrCreate request (p.quote request)
  | quoteWith request answer => discard <| QuoteCache.getOrCreate request (expect answer)
  | createInboundShipment a request => discard <| Amazon.createInboundShipment a request
  | fetchInboundLabels a shipmentId request =>
    discard <| Amazon.fetchInboundLabels a shipmentId request
  | erase m externalId => do
    let fresh ← freshId
    let at_ ← now
    discard <| onStore (·.eraseIdentity m externalId fresh at_)

/-- The service after an operation in a context, whether the operation succeeded or failed. -/
def apply (c : Context) (op : Operation) (σ : Service) : Service :=
  ((op.run.run c).run.run σ).2

end Operation

/-- The services reachable from an empty one by the library's operations. -/
inductive Reachable : Service → Prop
  | empty : Reachable {}
  | step {σ : Service} (c : Context) (op : Operation) : Reachable σ → Reachable (op.apply c σ)

namespace Operation

variable {N : Nat} {P : Nat → Store → Prop}

-- the inbound shipment triple is stated over trimmed fields; trimming stays folded
attribute [local irreducible] Text.trim in
theorem run_preserves (hW : Store.Writes N P) (op : Operation) :
    ⦃fun _ σ => ⌜σ.Has P⌝⦄ op.run ⦃post⟨fun _ _ σ => ⌜σ.Has P⌝, fun _ σ => ⌜σ.Has P⌝⟩⦄ := by
  cases op with
  | registerAccount a =>
    (mvcgen [run] with solve_by_elim [hW.succ, hW.upsertAccount, Service.issuedUpTo_next])
  | tokenUpdate id u =>
    (mvcgen [run, SyncM.onStoreE, SyncM.expect] with solve_by_elim [hW.tokens])
  | setStatus id status => (mvcgen [run, SyncM.expect] with solve_by_elim [hW.setAccountStatus])
  | markSynced id at_ => (mvcgen [run, SyncM.expect] with solve_by_elim [hW.markSynced])
  | disconnect id seller =>
    (mvcgen [run, SyncM.onStoreE, SyncM.expect] with solve_by_elim [hW.deleteAccount])
  | erase m externalId => (mvcgen [run] with solve_by_elim [hW.eraseIdentity])
  | quote request p =>
    have hq := @QuoteCache.getOrCreate_preserves P hW.upsertQuote
    have hv := @QuoteProvider.quote_preserves P
    mvcgen [run, hq, hv]
  | quoteWith request answer =>
    have hq := @QuoteCache.getOrCreate_preserves P hW.upsertQuote
    mvcgen [run, hq, SyncM.expect]
  | beginAuthorization request =>
    have h := @Connect.begin_preserves P
    mvcgen [run, h]
  | completeAuthorization m params =>
    have h := Connect.complete_preserves hW
    mvcgen [run, h]
  | refreshAccount id =>
    have h := Pull.refreshAccount_preserves hW.tokens hW.toIngests hW.markSynced
      hW.setAccountStatus
    mvcgen [run, h]
  | applyOrder a o src =>
    have h := Pipeline.applyOrder_preserves hW.toIngests
    mvcgen [run, h]
  | applyRawOrders a orders src =>
    have h := Pipeline.applyRawOrders_preserves hW.toIngests
    mvcgen [run, h]
  | applyProduct a p =>
    have h := Pipeline.applyProduct_preserves hW.toIngests
    mvcgen [run, h]
  | applyInventory a stock =>
    have h := Pipeline.applyStock_preserves hW.toIngests
    mvcgen [run, h]
  | recordLabel a input =>
    have h := hW.recordLabel
    mvcgen [run, h]
  | createInboundShipment a request =>
    have h := Amazon.createInboundShipment_preserves hW.tokens hW.upsertInbound
    mvcgen [run, h]
  | fetchInboundLabels a shipmentId request =>
    have h := Amazon.fetchInboundLabels_preserves hW.tokens hW.recordInboundLabels
    mvcgen [run, h]

end Operation

variable (N : Nat)

@[spec] theorem Pipeline.recordLabel_sound (a : ChannelAccount) (input : LabelInput) :
    ⦃fun _ σ => ⌜σ.Good N⌝⦄ Pipeline.recordLabel a input
      ⦃post⟨fun _ _ σ => ⌜σ.Good N⌝, fun _ σ => ⌜σ.Good N⌝⟩⦄ := by
  mvcgen [Pipeline.recordLabel]
  case inv1 =>
    exact post⟨fun ⟨xs, _⟩ _ σ => ⌜σ.Good N ∧ ∀ l ∈ xs.suffix, IssuedUpTo N σ.issued l.id⌝,
      fun _ σ => ⌜σ.Good N⌝⟩
  case vc1.step =>
    rename_i cur _ _ _ _ _ hinv
    obtain ⟨hg, hl⟩ := hinv
    exact ⟨hg.upsertAudit (hl cur List.mem_cons_self),
      fun l hl' => hl l (List.mem_cons_of_mem _ hl')⟩
  case vc2.h_1.pre =>
    rename_i hg _ _ _
    refine ⟨hg.upsertLabel rfl, fun l hl => ?_⟩
    exact Store.SoundUpTo.issuedUpTo_of_mem_audit (hg.upsertLabel (by rfl)) (List.mem_filter.1 hl).1
  case vc3.h_1.post.success =>
    rename_i hinv
    exact hinv.1
  case vc4.h_1.post.except => exact ExceptConds.entails.rfl
  case vc5.h_2 =>
    rename_i hg _ _ _ _
    exact hg.upsertLabel rfl

theorem Store.SoundUpTo.writes : Store.Writes N fun n s => s.SoundUpTo N n where
  succ h := h.succ
  upsertItem h := h.upsertItem
  upsertItemLink h := h.upsertItemLink
  touchItemLink h := h.touchItemLink
  resolveCustomer h := h.resolveCustomer
  upsertCustomerLink h := h.upsertCustomerLink
  upsertOrder h ho := h.upsertOrder ho
  upsertLine h hl := h.upsertLine hl
  upsertStock h := h.upsertStock
  projectAudit := Pipeline.projectAudit_preserves (fun h => h.succ)
    fun h hx => h.upsertAudit (hx ▸ issuedUpTo_next)
  sound h := h
  tokens _ _ _ _ _ _ h hm := h.applyTokenUpdate hm
  markSynced h hm := h.markSynced hm
  setAccountStatus h hm := h.setAccountStatus hm
  upsertAccount h ha := h.upsertAccount ha
  deleteAccount h hm := h.deleteAccount hm
  upsertQuote h hq := h.upsertQuote hq
  upsertInbound h hx := h.upsertInbound hx
  recordInboundLabels h hr := h.recordInboundLabels hr
  eraseIdentity h := h.eraseIdentity
  recordLabel := Pipeline.recordLabel_sound N

/-! ### Every call keeps the service sound

The footprint triples at soundness, kept as specifications for the proofs that carry more. -/

@[spec high] theorem SyncM.forIn_good {α β : Type} {xs : List α} {init : β}
    {f : α → β → SyncM (ForInStep β)}
    (step : ∀ x b, ⦃fun _ σ => ⌜σ.Good N⌝⦄ f x b
      ⦃post⟨fun _ _ σ => ⌜σ.Good N⌝, fun _ σ => ⌜σ.Good N⌝⟩⦄) :
    ⦃fun _ σ => ⌜σ.Good N⌝⦄ forIn xs init f
      ⦃post⟨fun _ _ σ => ⌜σ.Good N⌝, fun _ σ => ⌜σ.Good N⌝⟩⦄ :=
  SyncM.forIn_has _ step

namespace Pipeline

@[spec] theorem resolveCustomer_sound (a : ChannelAccount) (o : IncomingOrder) :
    ⦃fun _ σ => ⌜σ.Good N⌝⦄ resolveCustomer a o
      ⦃post⟨fun _ _ σ => ⌜σ.Good N⌝, fun _ σ => ⌜σ.Good N⌝⟩⦄ :=
  resolveCustomer_preserves (Store.SoundUpTo.writes N).toIngests a o

@[spec] theorem resolveLineItem_sound (a : ChannelAccount) (line : IncomingLine) :
    ⦃fun _ σ => ⌜σ.Good N⌝⦄ resolveLineItem a line
      ⦃post⟨fun _ _ σ => ⌜σ.Good N⌝, fun _ σ => ⌜σ.Good N⌝⟩⦄ :=
  resolveLineItem_preserves (Store.SoundUpTo.writes N).toIngests a line

@[spec] theorem projectAudit_sound (a : ChannelAccount) (stored : StoredOrder)
    (o : IncomingOrder) (src : IngestSource) :
    ⦃fun _ σ => ⌜σ.Good N⌝⦄ projectAudit a stored o src
      ⦃post⟨fun _ _ σ => ⌜σ.Good N⌝, fun _ σ => ⌜σ.Good N⌝⟩⦄ :=
  (Store.SoundUpTo.writes N).projectAudit a stored o src

@[spec] theorem applyOrder_sound (a : ChannelAccount) (o : IncomingOrder) (src : IngestSource) :
    ⦃fun _ σ => ⌜σ.Good N⌝⦄ applyOrder a o src
      ⦃post⟨fun _ _ σ => ⌜σ.Good N⌝, fun _ σ => ⌜σ.Good N⌝⟩⦄ :=
  applyOrder_preserves (Store.SoundUpTo.writes N).toIngests a o src

@[spec] theorem applyRawOrders_sound (a : ChannelAccount) (orders : List RawOrder)
    (src : IngestSource) :
    ⦃fun _ σ => ⌜σ.Good N⌝⦄ applyRawOrders a orders src
      ⦃post⟨fun _ _ σ => ⌜σ.Good N⌝, fun _ σ => ⌜σ.Good N⌝⟩⦄ :=
  applyRawOrders_preserves (Store.SoundUpTo.writes N).toIngests a orders src

@[spec] theorem applyProduct_sound (a : ChannelAccount) (p : IncomingProduct) :
    ⦃fun _ σ => ⌜σ.Good N⌝⦄ applyProduct a p
      ⦃post⟨fun _ _ σ => ⌜σ.Good N⌝, fun _ σ => ⌜σ.Good N⌝⟩⦄ :=
  applyProduct_preserves (Store.SoundUpTo.writes N).toIngests a p

@[spec] theorem applyStock_sound (a : ChannelAccount) (st : IncomingStock) :
    ⦃fun _ σ => ⌜σ.Good N⌝⦄ applyStock a st
      ⦃post⟨fun _ _ σ => ⌜σ.Good N⌝, fun _ σ => ⌜σ.Good N⌝⟩⦄ :=
  applyStock_preserves (Store.SoundUpTo.writes N).toIngests a st

end Pipeline

@[spec] theorem Credential.acquire_sound (id : Uuid) :
    ⦃fun _ σ => ⌜σ.Good N⌝⦄ Credential.acquire id
      ⦃post⟨fun _ _ σ => ⌜σ.Good N⌝, fun _ σ => ⌜σ.Good N⌝⟩⦄ :=
  Credential.acquire_preserves (Store.SoundUpTo.writes N).tokens id

@[spec] theorem Executor.execute_sound (account : ChannelAccount) (req : ApiRequest) :
    ⦃fun _ σ => ⌜σ.Good N⌝⦄ Executor.execute account req
      ⦃post⟨fun _ _ σ => ⌜σ.Good N⌝, fun _ σ => ⌜σ.Good N⌝⟩⦄ :=
  Executor.execute_preserves (Store.SoundUpTo.writes N).tokens account req

@[spec] theorem Subscriptions.register_sound (account : ChannelAccount) (address : String) :
    ⦃fun _ σ => ⌜σ.Good N⌝⦄ Subscriptions.register account address
      ⦃post⟨fun _ _ σ => ⌜σ.Good N⌝, fun _ σ => ⌜σ.Good N⌝⟩⦄ :=
  Subscriptions.register_preserves (Store.SoundUpTo.writes N).tokens account address

@[spec] theorem QuoteProvider.quote_sound (p : QuoteProvider) (request : QuoteRequest) :
    ⦃fun _ σ => ⌜σ.Good N⌝⦄ p.quote request
      ⦃post⟨fun _ _ σ => ⌜σ.Good N⌝, fun _ σ => ⌜σ.Good N⌝⟩⦄ :=
  QuoteProvider.quote_preserves p request

@[spec] theorem Amazon.createInboundShipment_sound (account : ChannelAccount)
    (request : Amazon.InboundShipmentRequest) :
    ⦃fun _ σ => ⌜σ.Good N⌝⦄ Amazon.createInboundShipment account request
      ⦃post⟨fun _ _ σ => ⌜σ.Good N⌝, fun _ σ => ⌜σ.Good N⌝⟩⦄ :=
  Amazon.createInboundShipment_preserves (Store.SoundUpTo.writes N).tokens
    (Store.SoundUpTo.writes N).upsertInbound account request

@[spec] theorem Amazon.fetchInboundLabels_sound (account : ChannelAccount) (shipmentId : String)
    (request : Amazon.LabelRequest) :
    ⦃fun _ σ => ⌜σ.Good N⌝⦄ Amazon.fetchInboundLabels account shipmentId request
      ⦃post⟨fun _ _ σ => ⌜σ.Good N⌝, fun _ σ => ⌜σ.Good N⌝⟩⦄ :=
  Amazon.fetchInboundLabels_preserves (Store.SoundUpTo.writes N).tokens
    (Store.SoundUpTo.writes N).recordInboundLabels account shipmentId request

@[spec] theorem Pull.refreshAccount_sound (id : Uuid) :
    ⦃fun _ σ => ⌜σ.Good N⌝⦄ Pull.refreshAccount id
      ⦃post⟨fun _ _ σ => ⌜σ.Good N⌝, fun _ σ => ⌜σ.Good N⌝⟩⦄ :=
  Pull.refreshAccount_preserves (Store.SoundUpTo.writes N).tokens
    (Store.SoundUpTo.writes N).toIngests (Store.SoundUpTo.writes N).markSynced
    (Store.SoundUpTo.writes N).setAccountStatus id

@[spec] theorem Connect.begin_sound (request : NewAuthorization) :
    ⦃fun _ σ => ⌜σ.Good N⌝⦄ Connect.begin request
      ⦃post⟨fun _ _ σ => ⌜σ.Good N⌝, fun _ σ => ⌜σ.Good N⌝⟩⦄ :=
  Connect.begin_preserves request

@[spec] theorem Connect.complete_sound (m : Marketplace) (params : CallbackParams) :
    ⦃fun _ σ => ⌜σ.Good N⌝⦄ Connect.complete m params
      ⦃post⟨fun _ _ σ => ⌜σ.Good N⌝, fun _ σ => ⌜σ.Good N⌝⟩⦄ :=
  Connect.complete_preserves (Store.SoundUpTo.writes N) m params

theorem Reachable.has {N : Nat} {P : Nat → Store → Prop} (hW : Store.Writes N P) (h0 : P 0 {})
    {σ : Service} (h : Reachable σ) : σ.Has P := by
  induction h with
  | empty => exact h0
  | step c op _ ih => exact SyncM.keeps_of_triple (op.run_preserves hW) c ih

theorem Reachable.good {σ : Service} (h : Reachable σ) : σ.Good N :=
  Reachable.has (Store.SoundUpTo.writes N) Store.SoundUpTo.empty h

/-- While the ids handed out are distinct, every table of a reachable store holds at most one row
per natural key, and no two rows of a table share an id. -/
theorem Reachable.store_keyed {σ : Service} (h : Reachable σ) (hd : Service.Distinct σ.issued) :
    σ.store.Keyed :=
  (h.good σ.issued hd (Nat.le_refl _)).keyed

/-- An account registered into an empty service, in a context with default settings. -/
theorem store_keyed_after_register :
    let c : Context := ⟨default, RetryPolicy.immediate 3, Span.ofSeconds 60, ⟨0, 0⟩,
      Network.unreachable⟩
    let σ := (Operation.registerAccount (ChannelAccount.new ⟨0⟩ ⟨7⟩ .shopify (some "shop.example")
      ⟨0, 0⟩)).apply c {}
    Reachable σ ∧ Service.Distinct σ.issued ∧ σ.store.Keyed := by
  intro c σ
  have hr : Reachable σ := .step c _ .empty
  have hd : Service.Distinct σ.issued := Service.distinct_of_lt (by decide)
  exact ⟨hr, hd, Reachable.store_keyed hr hd⟩

end SellerSync
