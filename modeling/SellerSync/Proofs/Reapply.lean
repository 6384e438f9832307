import Mathlib
import SellerSync.Proofs.Reachable
import SellerSync.Proofs.CustomerMatch
/-! Applying an order again. -/
open Std.Do

set_option mvcgen.warning false

namespace SellerSync

namespace Store

variable {s : Store} {r : StoredOrder}

theorem upsertOrder_find? :
    (s.upsertOrder r).2.orders.find? (fun e =>
      e.accountId == r.accountId && e.externalOrderId == r.externalOrderId)=
        some (s.upsertOrder r).1 := by
  simp only [upsertOrder]
  apply Rows.find?_put
  · split <;> simp
  · cases List.find? (fun e => e.accountId == r.accountId &&
      e.externalOrderId == r.externalOrderId) s.orders <;> simp

theorem upsertOrder_id {e : StoredOrder}
    (h : s.orders.find? (fun e => e.accountId == r.accountId &&
      e.externalOrderId == r.externalOrderId)=some e) : (s.upsertOrder r).1.id=e.id := by
  simp [upsertOrder, h]

end Store

namespace Pipeline

/-- The customer an order resolves to in a store: none without customer details, else the
customer they match, or the fresh id when none matches. -/
def customerIn (s : Store) (a : ChannelAccount) (o : IncomingOrder) (fresh : Uuid) :
    Option Uuid :=
  match o.customer with
  | none => none
  | some c =>
    if c.externalId.isNone && c.email.isNone && c.phone.isNone then none
    else some ((s.customerMatch a.sellerId a.id c.externalId (.ofIncoming c)).getD fresh)

/-- The costs an audit line of an order's line carries: the order's shipping, or the line's
estimate, and a prep fee of zero. -/
def lineCosts (o : IncomingOrder) (l : IncomingLine) : LineCosts :=
  { fulfillment := o.fulfillmentCost.or l.shippingEstimate, prep := some Decimal.zero }

/-- Every line's costs add up, so the audit projection does not fail. -/
def CostsAddUp (o : IncomingOrder) : Prop :=
  ∀ l ∈ o.lines, ∃ t, (lineCosts o l).total=.ok t

/-- What an application of an order leaves for the next one: the order's row under its account
and external id has the given id, and its details resolve to the given customer whatever id
would be fresh. -/
structure Settled (a : ChannelAccount) (o : IncomingOrder) (oid : Uuid) (cid : Option Uuid)
    (s : Store) : Prop where
  order : (s.orders.find? fun e => e.accountId == a.id &&
    e.externalOrderId == o.externalOrderId).map (·.id)=some oid
  customer : ∀ fresh, customerIn s a o fresh=cid

variable {a : ChannelAccount} {o : IncomingOrder} {oid : Uuid} {cid : Option Uuid} {s s' : Store}

theorem Settled.frame (h : Settled a o oid cid s) (ho : s'.orders=s.orders)
    (hc : s'.customers=s.customers) (hl : s'.customerLinks=s.customerLinks) :
    Settled a o oid cid s' where
  order := ho ▸ h.order
  customer fresh := by
    have hm : ∀ seller account ext cand, s'.customerMatch seller account ext cand=
        s.customerMatch seller account ext cand := by
      simp [Store.customerMatch, Store.contactMatch, Store.linkMatch, hc, hl]
    rw [← h.customer fresh]
    simp only [customerIn, hm]

theorem Settled.touchItemLink (h : Settled a o oid cid s) (id : Uuid) (now : Instant) :
    Settled a o oid cid (s.touchItemLink id now) :=
  h.frame rfl rfl rfl

theorem Settled.upsertItem (h : Settled a o oid cid s) (seller : Uuid) (sku title : String)
    (fresh : Uuid) (now : Instant) :
    Settled a o oid cid (s.upsertItem seller sku title fresh now).2 := by
  unfold Store.upsertItem
  split <;> exact h.frame rfl rfl rfl

theorem Settled.upsertItemLink (h : Settled a o oid cid s) (account : ChannelAccount)
    (link : NewItemLink) (fresh : Uuid) (now : Instant) :
    Settled a o oid cid (s.upsertItemLink account link fresh now).2 :=
  h.frame rfl rfl rfl

theorem Settled.upsertLine (h : Settled a o oid cid s) (l : StoredLine) :
    Settled a o oid cid (s.upsertLine l).2 := by
  simp only [Store.upsertLine]
  split <;> exact h.frame rfl rfl rfl

theorem Settled.upsertAudit (h : Settled a o oid cid s) (l : AuditLine) :
    Settled a o oid cid (s.upsertAudit l).2 :=
  h.frame rfl rfl rfl

theorem Settled.of_upsertOrder (hc : ∀ fresh, customerIn s a o fresh=cid) {r : StoredOrder}
    (ha : r.accountId=a.id) (he : r.externalOrderId=o.externalOrderId) :
    Settled a o (s.upsertOrder r).1.id cid (s.upsertOrder r).2 where
  order := by rw [← ha, ← he, Store.upsertOrder_find?]; rfl
  customer := hc

theorem Settled.upsertOrder (h : Settled a o oid cid s) {r : StoredOrder} (ha : r.accountId=a.id)
    (he : r.externalOrderId=o.externalOrderId) :
    (s.upsertOrder r).1.id=oid ∧ Settled a o oid cid (s.upsertOrder r).2 := by
  obtain ⟨e, hfind, rfl⟩ := Option.map_eq_some_iff.1 h.order
  have hid : (s.upsertOrder r).1.id=e.id := Store.upsertOrder_id (by rw [ha, he]; exact hfind)
  exact ⟨hid, hid ▸ Settled.of_upsertOrder h.customer ha he⟩

section Resolve

variable {c : IncomingCustomer} (s) (fresh₀ : Uuid) (now : Instant)

theorem customerIn_of_none (ho : o.customer=none) (fresh : Uuid) : customerIn s a o fresh=none := by
  simp [customerIn, ho]

theorem customerIn_of_blank (ho : o.customer=some c)
    (hb : (c.externalId.isNone && c.email.isNone && c.phone.isNone)=true) (fresh : Uuid) :
    customerIn s a o fresh=none := by
  simp [customerIn, ho, hb]

theorem customerIn_eq (ho : o.customer=some c)
    (hb : ¬(c.externalId.isNone && c.email.isNone && c.phone.isNone)=true) :
    customerIn s a o fresh₀=
      some (s.resolveCustomer a.sellerId a.id c.externalId (.ofIncoming c) fresh₀ now).1 := by
  simp [customerIn, ho, hb, Store.resolveCustomer_fst]

theorem customerIn_linked {e : String} (ho : o.customer=some c) (he : c.externalId=some e)
    (fresh' : Uuid) (now' : Instant) (fresh : Uuid) :
    let r := s.resolveCustomer a.sellerId a.id c.externalId (.ofIncoming c) fresh₀ now
    customerIn (r.2.upsertCustomerLink a r.1 e c.raw fresh' now').2 a o fresh=some r.1 := by
  simp only [customerIn, ho, he, Option.isNone_some, Bool.false_and, Bool.false_eq_true,
    if_false, Store.customerMatch_upsertCustomerLink, Option.getD_some]

theorem customerIn_resolved (ho : o.customer=some c) (he : c.externalId=none)
    (hb : ¬(c.externalId.isNone && c.email.isNone && c.phone.isNone)=true) (fresh : Uuid) :
    let r := s.resolveCustomer a.sellerId a.id c.externalId (.ofIncoming c) fresh₀ now
    customerIn r.2 a o fresh=some r.1 := by
  have hc : ((CustomerCandidate.ofIncoming c).email.isSome ||
      (CustomerCandidate.ofIncoming c).phone.isSome)=true := by
    simp only [he, Option.isNone_none, Bool.true_and, Bool.not_eq_true] at hb
    cases hm : c.email <;> cases hp : c.phone <;> simp_all [CustomerCandidate.ofIncoming]
  simp [customerIn, ho, hb, Store.customerMatch_resolveCustomer hc]

end Resolve

theorem Settled.of_resolved (h : Settled a o oid cid s) (ho : s'.orders=s.orders) (fresh₀ : Uuid)
    {x : Option Uuid} (hx : customerIn s a o fresh₀=x) (hs' : ∀ fresh, customerIn s' a o fresh=x) :
    x=cid ∧ Settled a o oid cid s' :=
  have hxc : x=cid := hx.symm.trans (h.customer fresh₀)
  ⟨hxc, { order := ho ▸ h.order, customer := fun fresh => (hs' fresh).trans hxc }⟩

/-- The row applying an order writes for it, before an existing row lends it its id. -/
def orderRow (account : ChannelAccount) (order : IncomingOrder) (src : IngestSource)
    (customerId : Option Uuid) (fresh : Uuid) (at_ : Instant) : StoredOrder :=
  { id := fresh, sellerId := account.sellerId, accountId := account.id,
    marketplace := account.marketplace, marketplaceId := order.marketplaceId,
    fulfillmentChannel := order.fulfillmentChannel, source := src,
    externalOrderId := order.externalOrderId, status := order.status, currency := order.currency,
    totals := order.totals, customerId, placedAt := order.placedAt, closedAt := order.closedAt,
    raw := order.raw, syncedAt := at_ }

variable (oid cid)

theorem resolveCustomer_matches (account : ChannelAccount) (order : IncomingOrder) :
    ⦃fun _ _ => ⌜True⌝⦄ resolveCustomer account order
      ⦃post⟨fun r _ σ => ⌜∀ fresh, customerIn σ.store account order fresh=r⌝,
        fun _ _ => ⌜False⌝⟩⦄ := by
  mvcgen [resolveCustomer, -resolveCustomer_sound]
  case vc1 => exact customerIn_of_blank _ ‹_› ‹_›
  case vc2 => exact customerIn_linked _ _ _ ‹_› ‹_› _ _
  case vc3 =>
    rename_i ho hb _ _ _ _ hx hcx
    exact customerIn_resolved _ _ _ ho (hcx.trans (Option.eq_none_iff_forall_ne_some.2 hx)) hb
  case vc4 =>
    rename_i hx hcx _ _
    exact customerIn_of_none _ (hcx.trans (Option.eq_none_iff_forall_ne_some.2 hx))

theorem resolveCustomer_settled (account : ChannelAccount) (order : IncomingOrder) :
    ⦃fun _ σ => ⌜Settled account order oid cid σ.store⌝⦄ resolveCustomer account order
      ⦃post⟨fun r _ σ => ⌜r=cid ∧ Settled account order oid cid σ.store⌝,
        fun _ _ => ⌜False⌝⟩⦄ := by
  mvcgen [resolveCustomer, -resolveCustomer_sound]
  case vc1 =>
    rename_i ho hb _ _ hs
    exact hs.of_resolved rfl default (customerIn_of_blank _ ho hb _) (customerIn_of_blank _ ho hb)
  case vc2 =>
    rename_i ho hb _ _ hs _ _ he
    exact hs.of_resolved (by simp) _ (customerIn_eq _ _ _ ho hb)
      (customerIn_linked _ _ _ ho he _ _)
  case vc3 =>
    rename_i ho hb _ _ hs _ _ hx hcx
    exact hs.of_resolved (by simp) _ (customerIn_eq _ _ _ ho hb)
      (customerIn_resolved _ _ _ ho (hcx.trans (Option.eq_none_iff_forall_ne_some.2 hx)) hb)
  case vc4 =>
    rename_i hx hcx _ _ hs
    have ho := hcx.trans (Option.eq_none_iff_forall_ne_some.2 hx)
    exact hs.of_resolved rfl default (customerIn_of_none _ ho _) (customerIn_of_none _ ho)

theorem resolveLineItem_settled (account : ChannelAccount) (l : IncomingLine) :
    ⦃fun _ σ => ⌜Settled a o oid cid σ.store⌝⦄ resolveLineItem account l
      ⦃post⟨fun _ _ σ => ⌜Settled a o oid cid σ.store⌝, fun _ _ => ⌜False⌝⟩⦄ := by
  mvcgen [resolveLineItem, -resolveLineItem_sound] with
    solve_by_elim [Settled.touchItemLink, Settled.upsertItem, Settled.upsertItemLink]

theorem projectAudit_settled (account : ChannelAccount) (stored : StoredOrder)
    (order : IncomingOrder) (src : IngestSource) :
    ⦃fun _ σ => ⌜Settled a o oid cid σ.store⌝⦄ projectAudit account stored order src
      ⦃post⟨fun _ _ σ => ⌜Settled a o oid cid σ.store ∧ CostsAddUp order⌝,
        fun _ _ => ⌜¬ CostsAddUp order⌝⟩⦄ := by
  mvcgen [projectAudit, SyncM.expect, -projectAudit_sound, -SyncM.forIn_good]
  case inv1 =>
    exact post⟨fun cur _ σ => ⌜Settled a o oid cid σ.store ∧
      ∀ l ∈ List.Cursor.prefix cur.1, ∃ t, (lineCosts order l).total=.ok t⌝, fun _ _ => ⌜¬ CostsAddUp order⌝⟩
  case vc1.step.h_1 =>
    rename_i cur _ _ _ _ _ _ hinv t ht
    obtain ⟨hs, hp⟩ := hinv
    refine ⟨hs.upsertAudit _, fun l hl => ?_⟩
    rcases List.mem_append.1 hl with hl | hl
    · exact hp l hl
    · obtain rfl := List.mem_singleton.1 hl
      exact ⟨t, ht⟩
  case vc2.step.h_2 =>
    rename_i cur _ hlines _ _ _ _ _ _ ht
    intro hc
    obtain ⟨t, ht'⟩ := hc cur (by simp [hlines])
    cases ht'.symm.trans ht
  case vc3.pre =>
    rename_i hs _
    exact ⟨hs, by simp⟩
  case vc4.post.success =>
    rename_i hinv
    exact hinv
  case vc5.post.except => exact ExceptConds.entails.rfl

theorem applyOrder_settles (account : ChannelAccount) (order : IncomingOrder) (src : IngestSource) :
    ⦃fun _ _ => ⌜True⌝⦄ applyOrder account order src
      ⦃post⟨fun out _ σ => ⌜Settled account order out.orderId out.customerId σ.store ∧
        CostsAddUp order⌝, fun _ _ => ⌜¬ CostsAddUp order⌝⟩⦄ := by
  mvcgen [applyOrder, resolveCustomer_matches, resolveLineItem_settled, projectAudit_settled,
    -applyOrder_sound, -resolveCustomer_sound, -resolveLineItem_sound, -projectAudit_sound,
    -SyncM.forIn_good]
  case inv1 =>
    rename_i cid c σ _
    exact post⟨fun _ _ σ' => ⌜Settled account order (σ.store.upsertOrder (orderRow account order src
      cid (Service.idOf (σ.issued+1)) (Service.readingOf c.origin (σ.readings+1)))).1.id cid
      σ'.store⌝, fun _ _ => ⌜¬ CostsAddUp order⌝⟩
  case vc5.step.pre =>
    rename_i hinv
    exact hinv
  case vc6.step.post.success =>
    rename_i hs
    exact hs.upsertLine _
  case vc7.success.pre =>
    rename_i hc
    exact Settled.of_upsertOrder hc rfl rfl
  case vc8.success.post.success.pre =>
    rename_i hinv
    exact hinv
  case vc9.success.post.except => exact ExceptConds.entails.rfl

theorem applyOrder_resettles (account : ChannelAccount) (order : IncomingOrder)
    (src : IngestSource) :
    ⦃fun _ σ => ⌜Settled account order oid cid σ.store⌝⦄ applyOrder account order src
      ⦃post⟨fun out _ _ => ⌜out.orderId=oid ∧ out.customerId=cid⌝,
        fun _ _ => ⌜¬ CostsAddUp order⌝⟩⦄ := by
  mvcgen [applyOrder, resolveCustomer_settled, resolveLineItem_settled, projectAudit_settled,
    -applyOrder_sound, -resolveCustomer_sound, -resolveLineItem_sound, -projectAudit_sound,
    -SyncM.forIn_good] invariants
    · post⟨fun _ _ σ => ⌜Settled account order oid cid σ.store⌝, fun _ _ => ⌜¬ CostsAddUp order⌝⟩
  all_goals obtain ⟨rfl, hs⟩ := ‹_=cid ∧ Settled account order oid cid _›
  case vc8.step.pre => assumption
  case vc9.step.post.success => exact ‹Settled account order oid _ _›.upsertLine _
  case vc10.post.success.pre => exact (hs.upsertOrder rfl rfl).2
  case vc15.post.success.post.success.pre => assumption
  case vc16.post.success.post.success.post.success => exact ⟨(hs.upsertOrder rfl rfl).1, rfl⟩

/-- Applying an order a second time, from whatever state the first application left and from
any source, succeeds whenever the first did and returns the same order and customer. -/
theorem applyOrder_again_keeps_ids (a : ChannelAccount) (o : IncomingOrder)
    (src₁ src₂ : IngestSource) (c₁ c₂ : Context) (σ : Service) (out₁ : OrderOutcome)
    (h₁ : (((applyOrder a o src₁).run c₁).run.run σ).1=.ok out₁) :
    ∃ out₂, (((applyOrder a o src₂).run c₂).run.run
        (((applyOrder a o src₁).run c₁).run.run σ).2).1=.ok out₂ ∧
      out₂.orderId=out₁.orderId ∧ out₂.customerId=out₁.customerId := by
  have first := SyncM.run_of_triple (applyOrder_settles a o src₁) c₁ σ trivial
  rcases h : ((applyOrder a o src₁).run c₁).run.run σ with ⟨r₁, σ₁⟩
  rw [h] at first h₁
  obtain rfl : r₁=.ok out₁ := h₁
  obtain ⟨hs, hc⟩ := first
  have second :=
    SyncM.run_of_triple (applyOrder_resettles out₁.orderId out₁.customerId a o src₂) c₂ σ₁ hs
  rcases h' : ((applyOrder a o src₂).run c₂).run.run σ₁ with ⟨r₂, σ₂⟩
  rw [h'] at second
  cases r₂ with
  | ok out₂ => exact ⟨out₂, rfl, second⟩
  | error e => exact absurd hc second

/-- A paid order with a new customer and a new item, applied to an empty store and then again
from a webhook, returns the same ids. -/
theorem applyOrder_again_keeps_ids_of_paid_order :
    let c : Context := ⟨default, RetryPolicy.immediate 3, Span.ofSeconds 60, ⟨0, 0⟩,
      Network.unreachable⟩
    let a := ChannelAccount.new (Service.idOf 1) ⟨7⟩ .shopify (some "a.myshopify.com") ⟨0, 0⟩
    let o : IncomingOrder :=
      { externalOrderId := "1001", status := "paid", currency := none, totals := {},
        placedAt := none, closedAt := none, marketplaceId := none, fulfillmentChannel := none,
        customer := some { email := some "b@example.com" },
        lines := [{ externalLineId := some "10", sku := some "SKU-1", quantity := 1 }],
        shipTo := {}, fulfillmentCost := none, labelHint := false, raw := .null }
    ∃ out₁, (((applyOrder a o .poll).run c).run.run {}).1=.ok out₁ ∧
      ∃ out₂, (((applyOrder a o .webhook).run c).run.run
          (((applyOrder a o .poll).run c).run.run {}).2).1=.ok out₂ ∧
        out₂.orderId=out₁.orderId ∧ out₂.customerId=out₁.customerId := by
  intro c a o
  have hok : (((applyOrder a o .poll).run c).run.run {}).1.isOk=true := by decide +kernel
  cases h : (((applyOrder a o .poll).run c).run.run {}).1 with
  | ok out₁ => exact ⟨out₁, rfl, applyOrder_again_keeps_ids a o .poll .webhook c c {} out₁ h⟩
  | error e => simp [h, Except.isOk, Except.toBool] at hok

/-- Applying an order twice need not leave the store the first application left: here the first
line only names a listing whose link the second line creates, so it gets its item only the
second time. -/
theorem applyOrder_again_links_line :
    let c : Context := ⟨default, RetryPolicy.immediate 3, Span.ofSeconds 60, ⟨0, 0⟩,
      Network.unreachable⟩
    let a := ChannelAccount.new (Service.idOf 1) ⟨7⟩ .shopify (some "a.myshopify.com") ⟨0, 0⟩
    let σ₀ := (Operation.registerAccount a).apply c {}
    let A : ChannelAccount := { a with updatedAt := Service.readingOf c.origin 1 }
    let o : IncomingOrder :=
      { externalOrderId := "1001", status := "paid", currency := none, totals := {},
        placedAt := none, closedAt := none, marketplaceId := none, fulfillmentChannel := none,
        customer := none,
        lines := [{ externalLineId := some "10", externalItemId := some "100", quantity := 1 },
          { externalLineId := some "11", externalItemId := some "100", sku := some "SKU-1",
            quantity := 1 }],
        shipTo := {}, fulfillmentCost := none, labelHint := false, raw := .null }
    let σ₁ := (((Pipeline.applyOrder A o .poll).run c).run.run σ₀).2
    let σ₂ := (((Pipeline.applyOrder A o .poll).run c).run.run σ₁).2
    Reachable σ₀ ∧ σ₀.store.accounts=[A] ∧ (∀ l ∈ o.lines, l.externalLineId.isSome) ∧
      ((σ₁.store.lines.find? (·.externalLineId == some "10")).bind (·.itemId)).isNone ∧
      ((σ₂.store.lines.find? (·.externalLineId == some "10")).bind (·.itemId)).isSome := by
  intro c a σ₀ A o σ₁ σ₂
  refine ⟨.step c _ .empty, rfl, by decide, ?_⟩
  decide +kernel

end Pipeline

end SellerSync
