import Mathlib
import SellerSync.Proofs.Steady
import SellerSync.Proofs.Links
import SellerSync.Proofs.Reapply
/-! The links between the store's tables along whole runs. -/
open Std.Do

set_option mvcgen.warning false

namespace SellerSync

open Service

namespace Store

variable {N n m : Nat} {seen seen' as : List (Uuid × Uuid)} {s s' : Store}

/-- While the ids handed out are distinct: the store is tied to the account ids and sellers
`seen`, each of them handed out, and knows the account ids and sellers `as`. -/
def TiedUpTo (N : Nat) (seen as : List (Uuid × Uuid)) (n : Nat) (s : Store) : Prop :=
  Distinct N → n ≤ N → s.Tied seen ∧ (∀ p∈seen, Issued n p.1) ∧ ∀ p∈as, s.Knows seen p

theorem Knows.of_owners {p : Uuid × Uuid} (h : s.Knows seen p) (ho : s'.owners=s.owners) :
    s'.Knows seen p := by
  unfold Knows at h ⊢
  rwa [ho]

theorem TiedUpTo.of_tied (h : s.TiedUpTo N seen as n) (hnm : n ≤ m)
    (ho : Distinct N → m ≤ N → s.Tied seen → s'.owners=s.owners)
    (hw : Distinct N → m ≤ N → s.Tied seen → s'.Tied seen) : s'.TiedUpTo N seen as m := by
  intro hd hm
  obtain ⟨ht, hi, hk⟩ := h hd (Nat.le_trans hnm hm)
  exact ⟨hw hd hm ht, fun p hp => (hi p hp).mono hnm, fun p hp => (hk p hp).of_owners (ho hd hm ht)⟩

theorem TiedUpTo.of_linkView (h : s.TiedUpTo N seen as n) (hnm : n ≤ m)
    (hv : Distinct N → m ≤ N → s.Tied seen → s'.linkView=s.linkView) :
    s'.TiedUpTo N seen as m :=
  h.of_tied hnm (fun hd hm ht => congrArg Prod.fst (hv hd hm ht))
    fun hd hm ht => ht.congr (hv hd hm ht)

theorem linkView_of_recordInboundLabels {account : Uuid} {shipmentId : String}
    {labels : InboundLabels} {now : Instant} {x : InboundShipment}
    (hr : s.recordInboundLabels account shipmentId labels now=some (x, s')) :
    s'.linkView=s.linkView := by
  unfold recordInboundLabels at hr
  cases he : s.inbound? account shipmentId with
  | none => simp [he] at hr
  | some e =>
    simp only [he, Option.map_some, Option.some.injEq, Prod.mk.injEq] at hr
    rw [← hr.2]
    rfl

theorem owners_upsertItem (seller : Uuid) (sku title : String) (fresh : Uuid) (now : Instant) :
    (s.upsertItem seller sku title fresh now).2.owners=s.owners := by
  unfold upsertItem
  split <;> rfl

theorem orders_upsertItem (seller : Uuid) (sku title : String) (fresh : Uuid) (now : Instant) :
    (s.upsertItem seller sku title fresh now).2.orders=s.orders := by
  unfold upsertItem
  split <;> rfl

theorem orders_upsertLine (l : StoredLine) : (s.upsertLine l).2.orders=s.orders := by
  simp only [upsertLine]
  split <;> rfl

theorem upsertOrder_fst (o : StoredOrder) : ∃ id, (s.upsertOrder o).1={ o with id } := by
  simp only [upsertOrder]
  split <;> exact ⟨_, rfl⟩

@[simp] theorem upsertOrder_accountId (o : StoredOrder) :
    (s.upsertOrder o).1.accountId=o.accountId := by
  obtain ⟨_, h⟩ := @upsertOrder_fst s o
  rw [h]

@[simp] theorem upsertOrder_sellerId (o : StoredOrder) : (s.upsertOrder o).1.sellerId=o.sellerId := by
  obtain ⟨_, h⟩ := @upsertOrder_fst s o
  rw [h]

theorem mem_upsertOrder (o : StoredOrder) : (s.upsertOrder o).1∈(s.upsertOrder o).2.orders :=
  Rows.mem_put _ _ _

theorem owners_upsertLine (l : StoredLine) : (s.upsertLine l).2.owners=s.owners := by
  simp only [upsertLine]
  split <;> rfl

theorem owners_resolveCustomer (seller account : Uuid) (ext : Option String)
    (cand : CustomerCandidate) (fresh : Uuid) (now : Instant) :
    (s.resolveCustomer seller account ext cand fresh now).2.owners=s.owners := by
  obtain ⟨_, hr⟩ := @resolveCustomer_snd s seller account ext cand fresh now
  rw [hr]
  rfl

theorem mem_of_requireAccount {id : Uuid} {a : ChannelAccount} (h : s.requireAccount id=.ok a) :
    a∈s.accounts := by
  unfold requireAccount account? at h
  split at h
  next hf =>
    cases h
    exact List.mem_of_find?_eq_some hf
  next => cases h

theorem mem_of_found {seller : Uuid} {m : Marketplace} {p : ChannelAccount → Bool}
    {a : ChannelAccount} (hk : (s.accountsForSeller seller m).find? p=some a) : a∈s.accounts :=
  (List.mem_filter.1 (List.mem_mergeSort.1 (List.mem_of_find?_eq_some hk))).1

theorem Tied.seller_of_mem (h : s.Tied seen) {a : ChannelAccount} (ha : a∈s.accounts)
    {q : Uuid × Uuid} (hq : s.Knows seen q) (he : q.1=a.id) : q.2=a.sellerId :=
  h.agree hq (knows_of_mem ha) he

/-- The store holds the order `o`, written under the account `a` and its seller. -/
def Holds (s : Store) (a : ChannelAccount) (o : StoredOrder) : Prop :=
  o∈s.orders ∧ o.accountId=a.id ∧ o.sellerId=a.sellerId

/-- The store holds the order an audit line is written for, under the line's account, seller and
external order id. -/
def AuditOrder (s : Store) (x : AuditLine) : Prop :=
  ∃ o∈s.orders, o.id=x.orderId ∧ o.accountId=x.accountId ∧ o.sellerId=x.sellerId ∧
    o.externalOrderId=x.orderExternalId

theorem Tied.of_knows (h : s.Tied seen) (hk : ∀ p, s.Knows seen' p ↔ s.Knows seen p) :
    s.Tied seen' where
  agree hp hq := h.agree ((hk _).1 hp) ((hk _).1 hq)
  lines := h.lines
  audit := h.audit
  orders o ho := ⟨(hk _).2 (h.orders o ho).1, (h.orders o ho).2⟩
  itemLinks m hm :=
    let ⟨seller, hi, hkn⟩ := h.itemLinks m hm
    ⟨seller, hi, (hk _).2 hkn⟩
  customerLinks m hm :=
    let ⟨seller, hc, hkn⟩ := h.customerLinks m hm
    ⟨seller, hc, (hk _).2 hkn⟩

theorem Tied.extend (h : s.Tied seen) : s.Tied (seen ++ s.owners) :=
  h.of_knows fun p => by
    simp only [Knows, List.mem_append]
    tauto

theorem tied_empty : ({} : Store).Tied [] where
  agree hp := by simp [Knows, owners] at hp
  lines := by simp
  audit := by simp
  orders := by simp
  itemLinks := by simp
  customerLinks := by simp

namespace TiedUpTo

theorem quiet : Quiet N (TiedUpTo N seen as) where
  succ _ h := h.of_linkView (Nat.le_succ _) fun _ _ _ => rfl
  applyTokenUpdate _ h hm := h.of_linkView le_rfl fun _ _ ht => ht.linkView_applyTokenUpdate hm
  markSynced _ h hm := h.of_linkView le_rfl fun _ _ ht => ht.linkView_markSynced hm
  setAccountStatus _ h hm := h.of_linkView le_rfl fun _ _ ht => ht.linkView_setAccountStatus hm
  upsertQuote _ h _ := h.of_linkView (Nat.le_succ _) fun _ _ _ => rfl
  upsertInbound _ h _ := h.of_linkView (Nat.le_succ _) fun _ _ _ => rfl
  recordInboundLabels _ h hr := h.of_linkView le_rfl fun _ _ _ => linkView_of_recordInboundLabels hr

/-! Each write of an ingestion keeps a sound tied store sound and tied, given what its links
need: an account the store knows, and items, customers and orders of the account's seller. -/

variable {now : Instant}

theorem knows (h : s.SoundWith N (TiedUpTo N seen as) n) {p : Uuid × Uuid} (hp : p∈as)
    (hd : Distinct N) (hn : n ≤ N) : s.Knows seen p :=
  (h.2 hd hn).2.2 p hp

theorem ne_next (h : s.SoundWith N (TiedUpTo N seen as) n) (hd : Distinct N) (hn : n+1 ≤ N)
    {q : Uuid × Uuid} (hq : s.Knows seen q) : q.1≠idOf (n+1) := by
  have hn' : n ≤ N := Nat.le_of_succ_le hn
  rcases hq with hq | hq
  · exact ((h.2 hd hn').2.1 q hq).ne_next hd hn
  · obtain ⟨a, ha, rfl⟩ := List.mem_map.1 hq
    exact ((h.1 hd hn').issued.accounts a ha).ne_next hd hn

theorem cons (h : s.SoundWith N (TiedUpTo N seen as) n) {p : Uuid × Uuid}
    (hp : Distinct N → n ≤ N → s.Knows seen p) : s.SoundWith N (TiedUpTo N seen (p :: as)) n := by
  refine ⟨h.1, fun hd hn => ?_⟩
  obtain ⟨ht, hi, hk⟩ := h.2 hd hn
  exact ⟨ht, hi, List.forall_mem_cons.2 ⟨hp hd hn, hk⟩⟩

theorem of_cons {p : Uuid × Uuid} (h : s.SoundWith N (TiedUpTo N seen (p :: as)) n) :
    s.SoundWith N (TiedUpTo N seen as) n := by
  refine ⟨h.1, fun hd hn => ?_⟩
  obtain ⟨ht, hi, hk⟩ := h.2 hd hn
  exact ⟨ht, hi, fun q hq => hk q (List.mem_cons_of_mem _ hq)⟩

theorem upsertItem (h : s.SoundWith N (TiedUpTo N seen as) n) {seller : Uuid}
    {sku title : String} :
    (s.upsertItem seller sku title (idOf (n+1)) now).2.SoundWith N (TiedUpTo N seen as) (n+1) :=
  ⟨h.1.upsertItem, h.2.of_tied (Nat.le_succ n) (fun _ _ _ => owners_upsertItem ..)
    fun hd hm ht => ht.upsertItem (h.1 hd (Nat.le_of_succ_le hm)).keyed _ _ _ _ _⟩

theorem upsertItemLink (h : s.SoundWith N (TiedUpTo N seen as) n) {account : ChannelAccount}
    {link : NewItemLink} (ha : account.owner∈as)
    (hi : Distinct N → n+1 ≤ N → s.HasItem link.itemId account.sellerId) :
    (s.upsertItemLink account link (idOf (n+1)) now).2.SoundWith N (TiedUpTo N seen as) (n+1) :=
  ⟨h.1.upsertItemLink, h.2.of_tied (Nat.le_succ n) (fun _ _ _ => rfl)
    fun hd hm ht => ht.upsertItemLink _ _ _ _ (hi hd hm) (knows h ha hd (Nat.le_of_succ_le hm))⟩

theorem touchItemLink (h : s.SoundWith N (TiedUpTo N seen as) n) {id : Uuid} :
    (s.touchItemLink id now).SoundWith N (TiedUpTo N seen as) n :=
  ⟨h.1.touchItemLink, h.2.of_tied le_rfl (fun _ _ _ => rfl) fun _ _ ht => ht.touchItemLink _ _⟩

theorem resolveCustomer (h : s.SoundWith N (TiedUpTo N seen as) n) {seller account : Uuid}
    {ext : Option String} {cand : CustomerCandidate} :
    (s.resolveCustomer seller account ext cand (idOf (n+1)) now).2.SoundWith N
      (TiedUpTo N seen as) (n+1) :=
  ⟨h.1.resolveCustomer, h.2.of_tied (Nat.le_succ n) (fun _ _ _ => owners_resolveCustomer ..)
    fun _ _ ht => ht.resolveCustomer⟩

theorem upsertCustomerLink (h : s.SoundWith N (TiedUpTo N seen as) n) {account : ChannelAccount}
    {customer : Uuid} {ext : String} {raw : Json} (ha : account.owner∈as)
    (hc : Distinct N → n+1 ≤ N → s.HasCustomer customer account.sellerId) :
    (s.upsertCustomerLink account customer ext raw (idOf (n+1)) now).2.SoundWith N
      (TiedUpTo N seen as) (n+1) :=
  ⟨h.1.upsertCustomerLink, h.2.of_tied (Nat.le_succ n) (fun _ _ _ => rfl)
    fun hd hm ht => ht.upsertCustomerLink _ _ _ _ _ _ (hc hd hm)
      (knows h ha hd (Nat.le_of_succ_le hm))⟩

theorem upsertOrder (h : s.SoundWith N (TiedUpTo N seen as) n) {o : StoredOrder}
    (ho : o.id=idOf (n+1)) (hk : (o.accountId, o.sellerId)∈as)
    (hc : Distinct N → n+1 ≤ N → ∀ c, o.customerId=some c → s.HasCustomer c o.sellerId) :
    (s.upsertOrder o).2.SoundWith N (TiedUpTo N seen as) (n+1) := by
  refine ⟨h.1.upsertOrder ho, h.2.of_tied (Nat.le_succ n) (fun _ _ _ => rfl) fun hd hm ht => ?_⟩
  have hs := h.1 hd (Nat.le_of_succ_le hm)
  refine ht.upsertOrder hs.keyed o (fun y hy => ?_) (knows h hk hd (Nat.le_of_succ_le hm)) (hc hd hm)
  rw [ho]
  exact (hs.issued.orders y hy).ne_next hd hm

theorem upsertLine (h : s.SoundWith N (TiedUpTo N seen as) n) {l : StoredLine}
    (hl : l.id=idOf (n+1))
    (ho : Distinct N → n+1 ≤ N →
      ∃ o∈s.orders, o.id=l.orderId ∧ ∀ i, l.itemId=some i → s.HasItem i o.sellerId) :
    (s.upsertLine l).2.SoundWith N (TiedUpTo N seen as) (n+1) :=
  ⟨h.1.upsertLine hl, h.2.of_tied (Nat.le_succ n) (fun _ _ _ => owners_upsertLine _)
    fun hd hm ht => ht.upsertLine l (ho hd hm)⟩

theorem upsertStock (h : s.SoundWith N (TiedUpTo N seen as) n) {item account : Uuid}
    {location : Option String} {available : Int} :
    (s.upsertStock item account location available (idOf (n+1)) now).2.SoundWith N
      (TiedUpTo N seen as) (n+1) :=
  ⟨h.1.upsertStock, h.2.of_linkView (Nat.le_succ n) fun _ _ _ => rfl⟩

theorem upsertAudit (h : s.SoundWith N (TiedUpTo N seen as) n) {x : AuditLine}
    (hx : IssuedUpTo N n x.id)
    (ho : Distinct N → n ≤ N → ∃ o∈s.orders, o.id=x.orderId ∧ o.accountId=x.accountId ∧
      o.sellerId=x.sellerId ∧ o.externalOrderId=x.orderExternalId) :
    (s.upsertAudit x).2.SoundWith N (TiedUpTo N seen as) n :=
  ⟨h.1.upsertAudit hx, h.2.of_tied le_rfl (fun _ _ _ => rfl) fun hd hm ht => ht.upsertAudit x (ho hd hm)⟩

theorem upsertLabel (h : s.SoundWith N (TiedUpTo N seen as) n) {l : ShippingLabel}
    (hl : l.id=idOf (n+1)) : (s.upsertLabel l).2.SoundWith N (TiedUpTo N seen as) (n+1) :=
  ⟨h.1.upsertLabel hl, h.2.of_linkView (Nat.le_succ n) fun _ _ _ => rfl⟩

theorem hasCustomer_resolveCustomer (h : s.SoundWith N (TiedUpTo N seen as) n)
    {seller account : Uuid} {ext : Option String} {cand : CustomerCandidate}
    (ha : (account, seller)∈as) (hd : Distinct N) (hn : n+1 ≤ N) :
    (s.resolveCustomer seller account ext cand (idOf (n+1)) now).2.HasCustomer
      (s.resolveCustomer seller account ext cand (idOf (n+1)) now).1 seller :=
  (h.2 hd (Nat.le_of_succ_le hn)).1.hasCustomer_resolveCustomer (knows h ha hd (Nat.le_of_succ_le hn))

theorem hasItem_findItemLink (h : s.SoundWith N (TiedUpTo N seen as) n) {account : ChannelAccount}
    (ha : account.owner∈as) {ext : String} {l : ItemLink} (hl : s.findItemLink account.id ext=some l)
    (hd : Distinct N) (hn : n ≤ N) : s.HasItem l.itemId account.sellerId :=
  (h.2 hd hn).1.hasItem_findItemLink (knows h ha hd hn) hl

theorem linkItem (h : s.SoundWith N (TiedUpTo N seen as) n) {account : ChannelAccount}
    (ha : account.owner∈as) {sku title : String} {now' : Instant} (link : NewItemLink)
    (hl : link.itemId=(s.upsertItem account.sellerId sku title (idOf (n+1)) now).1.id) :
    let s' := ((s.upsertItem account.sellerId sku title (idOf (n+1)) now).2.upsertItemLink
      account link (idOf (n+1+1)) now').2
    s'.SoundWith N (TiedUpTo N seen as) (n+1+1) ∧ s'.orders=s.orders ∧
      (Distinct N → n+1+1 ≤ N →
        s'.HasItem (s.upsertItem account.sellerId sku title (idOf (n+1)) now).1.id account.sellerId) := by
  intro s'
  have hi := Tied.hasItem_upsertItem s account.sellerId sku title (idOf (n+1)) now
  exact ⟨upsertItemLink (upsertItem h) ha fun _ _ => hl ▸ hi, orders_upsertItem .., fun _ _ => hi⟩

/-! Writes of accounts, made only by a whole operation, while the store knows no more than the
account ids and sellers seen. -/

theorem upsertAccount (h : s.SoundWith N (TiedUpTo N seen as) n) (has : ∀ p∈as, p∈seen)
    {a : ChannelAccount} (ha : IssuedUpTo N n a.id)
    (hs : Distinct N → n ≤ N → ∀ {q}, s.Knows seen q → q.1=a.id → q.2=a.sellerId) :
    (s.upsertAccount a now).2.SoundWith N (TiedUpTo N seen as) n := by
  refine ⟨h.1.upsertAccount ha, fun hd hn => ?_⟩
  obtain ⟨ht, hi, -⟩ := h.2 hd hn
  exact ⟨ht.upsertAccount a now (hs hd hn), hi, fun p hp => .inl (has p hp)⟩

theorem deleteAccount (h : s.SoundWith N (TiedUpTo N seen as) n) (has : ∀ p∈as, p∈seen)
    (hs : ∀ p∈s.owners, p∈seen) {id seller : Uuid} {r : Bool × Store}
    (hm : s.deleteAccount id seller=.ok r) : r.2.SoundWith N (TiedUpTo N seen as) n := by
  refine ⟨h.1.deleteAccount hm, fun hd hn => ?_⟩
  obtain ⟨ht, hi, -⟩ := h.2 hd hn
  exact ⟨ht.deleteAccount hs hm, hi, fun p hp => .inl (has p hp)⟩

theorem eraseIdentity (h : s.SoundWith N (TiedUpTo N seen as) n) (has : ∀ p∈as, p∈seen)
    (hs : ∀ p∈s.owners, p∈seen) {m : Marketplace} {ext : String} :
    (s.eraseIdentity m ext (idOf (n+1)) now).2.SoundWith N (TiedUpTo N seen as) (n+1) := by
  refine ⟨h.1.eraseIdentity, fun hd hn => ?_⟩
  obtain ⟨ht, hi, -⟩ := h.2 hd (Nat.le_of_succ_le hn)
  exact ⟨ht.eraseIdentity hs m ext _ now, fun p hp => (hi p hp).mono (Nat.le_succ n),
    fun p hp => .inl (has p hp)⟩

theorem extend (h : s.SoundWith N (TiedUpTo N seen seen) n) :
    s.SoundWith N (TiedUpTo N (seen ++ s.owners) (seen ++ s.owners)) n := by
  refine ⟨h.1, fun hd hn => ?_⟩
  obtain ⟨ht, hi, -⟩ := h.2 hd hn
  refine ⟨ht.extend, fun p hp => ?_, fun p hp => .inl hp⟩
  rcases List.mem_append.1 hp with hp | hp
  · exact hi p hp
  · obtain ⟨a, ha, rfl⟩ := List.mem_map.1 hp
    exact (h.1 hd hn).issued.accounts a ha

end TiedUpTo

end Store

namespace Pipeline

/-! An ingestion for an account the store knows keeps the store sound and tied: each write finds
what its links need, an order its lines and audit lines, and items and customers of the seller. -/

variable {N : Nat} {seen as : List (Uuid × Uuid)}

theorem resolveCustomer_tied (a : ChannelAccount) (o : IncomingOrder) (ha : a.owner∈as) :
    ⦃fun _ σ => ⌜σ.SoundWith N (Store.TiedUpTo N seen as)⌝⦄ resolveCustomer a o
      ⦃post⟨fun r _ σ => ⌜σ.SoundWith N (Store.TiedUpTo N seen as) ∧
          ∀ c, r=some c → Distinct N → σ.issued ≤ N → σ.store.HasCustomer c a.sellerId⌝,
        fun _ σ => ⌜σ.SoundWith N (Store.TiedUpTo N seen as)⌝⟩⦄ := by
  mvcgen [resolveCustomer, -resolveCustomer_sound]
  case vc1.h_1.isTrue =>
    exact ⟨‹_›, by simp⟩
  case vc2.h_1.isFalse.h_1 =>
    rename_i h _ _ _
    refine ⟨Store.TiedUpTo.upsertCustomerLink (Store.TiedUpTo.resolveCustomer h) ha
      fun hd hn => Store.TiedUpTo.hasCustomer_resolveCustomer h ha hd (by omega), ?_⟩
    rintro c hc hd hn
    cases Option.some.inj hc
    exact Store.TiedUpTo.hasCustomer_resolveCustomer h ha hd (by omega)
  case vc3.h_1.isFalse.h_2 =>
    have h : SoundWith N (Store.TiedUpTo N seen as) _ := ‹_›
    refine ⟨Store.TiedUpTo.resolveCustomer h, ?_⟩
    rintro c hc hd hn
    cases Option.some.inj hc
    exact Store.TiedUpTo.hasCustomer_resolveCustomer h ha hd hn
  case vc4.h_2 =>
    exact ⟨‹_›, by simp⟩

theorem resolveLineItem_tied (a : ChannelAccount) (line : IncomingLine) (ha : a.owner∈as)
    {o : StoredOrder} :
    ⦃fun _ σ => ⌜σ.SoundWith N (Store.TiedUpTo N seen as) ∧ o∈σ.store.orders⌝⦄
      resolveLineItem a line
      ⦃post⟨fun r _ σ => ⌜(σ.SoundWith N (Store.TiedUpTo N seen as) ∧ o∈σ.store.orders) ∧
          ∀ i, r=some i → Distinct N → σ.issued ≤ N → σ.store.HasItem i a.sellerId⌝,
        fun _ σ => ⌜σ.SoundWith N (Store.TiedUpTo N seen as)⌝⟩⦄ := by
  mvcgen [resolveLineItem, -resolveLineItem_sound]
  case vc1.h_1.h_1 =>
    have h : SoundWith N (Store.TiedUpTo N seen as) _ ∧ o∈_ := ‹_›
    refine ⟨⟨Store.TiedUpTo.touchItemLink h.1, h.2⟩, fun i hi hd hn => ?_⟩
    cases Option.some.inj hi
    exact Store.TiedUpTo.hasItem_findItemLink h.1 ha ‹_› hd hn
  case vc2.h_1.h_2.h_1 | vc4.h_2.h_1 =>
    have h : SoundWith N (Store.TiedUpTo N seen as) _ ∧ o∈_ := ‹_›
    obtain ⟨hs, ho, hi⟩ := Store.TiedUpTo.linkItem h.1 ha ‹NewItemLink› rfl
    refine ⟨⟨hs, ho ▸ h.2⟩, fun i hi' hd hn => ?_⟩
    cases Option.some.inj hi'
    exact hi hd hn
  case vc3.h_1.h_2.h_2 | vc5.h_2.h_2 => exact ⟨‹_›, by simp⟩

theorem projectAudit_tied (a : ChannelAccount) (stored : StoredOrder) (o : IncomingOrder)
    (src : IngestSource) :
    ⦃fun _ σ => ⌜σ.SoundWith N (Store.TiedUpTo N seen as) ∧ σ.store.Holds a stored⌝⦄
      projectAudit a stored o src
      ⦃post⟨fun _ _ σ => ⌜σ.SoundWith N (Store.TiedUpTo N seen as)⌝,
        fun _ σ => ⌜σ.SoundWith N (Store.TiedUpTo N seen as)⌝⟩⦄ := by
  mvcgen [projectAudit, SyncM.expect, -projectAudit_sound, -SyncM.forIn_good,
    -SyncM.forIn_holds, -SyncM.forIn_soundWith]
  case inv1 =>
    exact post⟨fun _ _ σ => ⌜σ.SoundWith N (Store.TiedUpTo N seen as) ∧ σ.store.Holds a stored⌝,
      fun _ σ => ⌜σ.SoundWith N (Store.TiedUpTo N seen as)⌝⟩
  case vc1.step.h_1 =>
    rename_i hinv _ _
    obtain ⟨h, hm, hacc, hsel⟩ := hinv
    exact ⟨Store.TiedUpTo.upsertAudit (Store.SoundWith.succ Store.TiedUpTo.quiet h) issuedUpTo_next
      fun _ _ => ⟨stored, hm, rfl, hacc, hsel, rfl⟩, hm, hacc, hsel⟩
  case vc2.step.h_2 =>
    rename_i hinv _ _
    exact hinv.1
  case vc3.pre =>
    rename_i h _
    exact h
  case vc4.post.success =>
    rename_i hinv
    exact hinv.1
  case vc5.post.except => exact ExceptConds.entails.rfl

theorem applyOrder_tied (a : ChannelAccount) (o : IncomingOrder) (src : IngestSource)
    (ha : a.owner∈as) :
    ⦃fun _ σ => ⌜σ.SoundWith N (Store.TiedUpTo N seen as)⌝⦄ applyOrder a o src
      ⦃post⟨fun _ _ σ => ⌜σ.SoundWith N (Store.TiedUpTo N seen as)⌝,
        fun _ σ => ⌜σ.SoundWith N (Store.TiedUpTo N seen as)⌝⟩⦄ := by
  have hc := @resolveCustomer_tied N seen as a o ha
  have hl := fun line stored => @resolveLineItem_tied N seen as a line ha stored
  have hp := @projectAudit_tied N seen as a
  mvcgen [applyOrder, hc, hl, hp, -applyOrder_sound, -resolveCustomer_sound,
    -resolveLineItem_sound, -projectAudit_sound, -SyncM.forIn_good, -SyncM.forIn_holds,
    -SyncM.forIn_soundWith]
  case inv1 =>
    rename_i cid c σ _
    exact post⟨fun _ _ σ' => ⌜σ'.SoundWith N (Store.TiedUpTo N seen as) ∧ σ'.store.Holds a
        (σ.store.upsertOrder (orderRow a o src cid (idOf (σ.issued+1))
          (readingOf c.origin (σ.readings+1)))).1⌝,
      fun _ σ' => ⌜σ'.SoundWith N (Store.TiedUpTo N seen as)⌝⟩
  case vc2.stored =>
    rename_i r c σ _ _ _ _ _ _ _ _ _
    exact (σ.store.upsertOrder (orderRow a o src r (idOf (σ.issued+1))
      (readingOf c.origin (σ.readings+1)))).1
  case vc3.step.pre =>
    rename_i hinv
    exact ⟨hinv.1, hinv.2.1⟩
  case vc4.step.post.success =>
    rename_i hinv _ _ _ hr
    obtain ⟨⟨h, hm⟩, hi⟩ := hr
    obtain ⟨-, -, hacc, hsel⟩ := hinv
    refine ⟨Store.TiedUpTo.upsertLine h rfl fun hd hn => ⟨_, hm, rfl, fun i hli => ?_⟩,
      (Store.orders_upsertLine _).symm ▸ hm, hacc, hsel⟩
    exact hsel ▸ hi i hli hd (Nat.le_of_succ_le hn)
  case vc5.step.post.except.handle =>
    intro _ h
    exact h
  case vc6.post.success.pre =>
    rename_i hc
    obtain ⟨h, hcust⟩ := hc
    exact ⟨Store.TiedUpTo.upsertOrder h rfl ha fun hd hn c hc => hcust c hc hd (Nat.le_of_succ_le hn),
      Store.mem_upsertOrder _, Store.upsertOrder_accountId _, Store.upsertOrder_sellerId _⟩
  case vc7.post.success.post.success.pre =>
    rename_i hinv
    exact hinv
  case vc8.post.success.post.except => exact ExceptConds.entails.rfl

theorem applyRawOrders_tied (a : ChannelAccount) (orders : List RawOrder) (src : IngestSource)
    (ha : a.owner∈as) :
    ⦃fun _ σ => ⌜σ.SoundWith N (Store.TiedUpTo N seen as)⌝⦄ applyRawOrders a orders src
      ⦃post⟨fun _ _ σ => ⌜σ.SoundWith N (Store.TiedUpTo N seen as)⌝,
        fun _ σ => ⌜σ.SoundWith N (Store.TiedUpTo N seen as)⌝⟩⦄ := by
  have ho := fun o src => @applyOrder_tied N seen as a o src ha
  mvcgen [applyRawOrders, ho, -applyRawOrders_sound, -applyOrder_sound,
    -SyncM.forIn_good, -SyncM.forIn_holds]

theorem applyProduct_tied (a : ChannelAccount) (p : IncomingProduct) (ha : a.owner∈as) :
    ⦃fun _ σ => ⌜σ.SoundWith N (Store.TiedUpTo N seen as)⌝⦄ applyProduct a p
      ⦃post⟨fun _ _ σ => ⌜σ.SoundWith N (Store.TiedUpTo N seen as)⌝,
        fun _ σ => ⌜σ.SoundWith N (Store.TiedUpTo N seen as)⌝⟩⦄ := by
  mvcgen [applyProduct, -applyProduct_sound, -SyncM.forIn_good, -SyncM.forIn_holds]
  case vc2.step.h_2 => exact (Store.TiedUpTo.linkItem ‹_› ha ‹NewItemLink› rfl).1

theorem applyStock_tied (a : ChannelAccount) (st : IncomingStock) (ha : a.owner∈as) :
    ⦃fun _ σ => ⌜σ.SoundWith N (Store.TiedUpTo N seen as)⌝⦄ applyStock a st
      ⦃post⟨fun _ _ σ => ⌜σ.SoundWith N (Store.TiedUpTo N seen as)⌝,
        fun _ σ => ⌜σ.SoundWith N (Store.TiedUpTo N seen as)⌝⟩⦄ := by
  mvcgen [applyStock, -applyStock_sound]
  -- each write's lemma is elaborated on its own and only then matched against the goal
  case vc2.h_1.h_2.h_1 => exact (Store.TiedUpTo.upsertStock (Store.TiedUpTo.touchItemLink ‹_›) :)
  case vc3.h_1.h_2.h_2 => exact Store.TiedUpTo.touchItemLink ‹_›
  case vc4.h_2.h_1 =>
    exact (Store.TiedUpTo.upsertStock (Store.TiedUpTo.linkItem ‹_› ha ‹NewItemLink› rfl).1 :)
  case vc5.h_2.h_2 => exact (Store.TiedUpTo.linkItem ‹_› ha ‹NewItemLink› rfl).1

theorem recordLabel_tied (a : ChannelAccount) (input : LabelInput) :
    ⦃fun _ σ => ⌜σ.SoundWith N (Store.TiedUpTo N seen as)⌝⦄ recordLabel a input
      ⦃post⟨fun _ _ σ => ⌜σ.SoundWith N (Store.TiedUpTo N seen as)⌝,
        fun _ σ => ⌜σ.SoundWith N (Store.TiedUpTo N seen as)⌝⟩⦄ := by
  mvcgen [recordLabel, -recordLabel_sound, -SyncM.forIn_good, -SyncM.forIn_holds,
    -SyncM.forIn_soundWith]
  case inv1 =>
    exact post⟨fun c _ σ => ⌜σ.SoundWith N (Store.TiedUpTo N seen as) ∧ ∀ l∈c.1.suffix,
        IssuedUpTo N σ.issued l.id ∧ (Distinct N → σ.issued ≤ N → σ.store.AuditOrder l)⌝,
      fun _ σ => ⌜σ.SoundWith N (Store.TiedUpTo N seen as)⌝⟩
  case vc1.step =>
    rename_i cur _ _ _ _ _ hinv
    obtain ⟨h, hl⟩ := hinv
    obtain ⟨hx, ho⟩ := hl cur List.mem_cons_self
    exact ⟨Store.TiedUpTo.upsertAudit h hx ho, fun l hl' => hl l (List.mem_cons_of_mem _ hl')⟩
  case vc2.h_1.pre =>
    rename_i h _ _ _
    refine ⟨Store.TiedUpTo.upsertLabel h rfl, fun l hl => ⟨?_, fun hd hn => ?_⟩⟩
    · exact Store.SoundUpTo.issuedUpTo_of_mem_audit (h.1.upsertLabel rfl) (List.mem_filter.1 hl).1
    · exact (h.2 hd (Nat.le_of_succ_le hn)).1.audit l (List.mem_filter.1 hl).1
  case vc3.h_1.post.success =>
    rename_i hinv
    exact hinv.1
  case vc4.h_1.post.except => exact ExceptConds.entails.rfl
  case vc5.h_2 => exact Store.TiedUpTo.upsertLabel ‹_› rfl

end Pipeline

namespace Pull

variable {N : Nat} {seen as : List (Uuid × Uuid)}

theorem refreshAccount_tied (id : Uuid) :
    ⦃fun _ σ => ⌜σ.SoundWith N (Store.TiedUpTo N seen as)⌝⦄ refreshAccount id
      ⦃post⟨fun _ _ σ => ⌜σ.SoundWith N (Store.TiedUpTo N seen as)⌝,
        fun _ σ => ⌜σ.SoundWith N (Store.TiedUpTo N seen as)⌝⟩⦄ := by
  have hs := fun (a : ChannelAccount) since => @shopify_kept N (Store.TiedUpTo N seen (a.owner :: as))
    Store.TiedUpTo.quiet a since (fun p => Pipeline.applyProduct_tied a p List.mem_cons_self)
    (fun o src => Pipeline.applyRawOrders_tied a o src List.mem_cons_self)
    (fun st => Pipeline.applyStock_tied a st List.mem_cons_self)
  have he := fun (a : ChannelAccount) since => @ebay_kept N (Store.TiedUpTo N seen (a.owner :: as))
    Store.TiedUpTo.quiet a since (fun o src => Pipeline.applyRawOrders_tied a o src List.mem_cons_self)
    (fun st => Pipeline.applyStock_tied a st List.mem_cons_self)
  have ha := fun (a : ChannelAccount) since => @amazon_kept N (Store.TiedUpTo N seen (a.owner :: as))
    Store.TiedUpTo.quiet a since (fun o src => Pipeline.applyRawOrders_tied a o src List.mem_cons_self)
  mvcgen [refreshAccount, marketplacePull, conclude, hs, he, ha, SyncM.attempt, SyncM.expect,
    -refreshAccount_sound]
  all_goals first
    | exact Store.TiedUpTo.cons ‹_› fun _ _ => Store.knows_of_mem (Store.mem_of_requireAccount ‹_›)
    | exact Store.SoundWith.markSynced Store.TiedUpTo.quiet ‹_› ‹_›
    | exact Store.SoundWith.markSynced Store.TiedUpTo.quiet (Store.TiedUpTo.of_cons ‹_›) ‹_›
    | exact Store.SoundWith.setAccountStatus Store.TiedUpTo.quiet (Store.TiedUpTo.of_cons ‹_›) ‹_›
    | exact Store.TiedUpTo.of_cons ‹_›

end Pull

namespace Connect

variable {N : Nat} {seen as : List (Uuid × Uuid)}

theorem connectedAccount_tied (m : Marketplace) (t : OAuthTransaction)
    (params : CallbackParams) (update : TokenUpdate) :
    ⦃fun _ σ => ⌜σ.SoundWith N (Store.TiedUpTo N seen as)⌝⦄ connectedAccount m t params update
      ⦃post⟨fun a _ σ => ⌜σ.SoundWith N (Store.TiedUpTo N seen as) ∧ IssuedUpTo N σ.issued a.id ∧
          (Distinct N → σ.issued ≤ N → ∀ {q}, σ.store.Knows seen q → q.1=a.id → q.2=a.sellerId)⌝,
        fun _ σ => ⌜σ.SoundWith N (Store.TiedUpTo N seen as)⌝⟩⦄ := by
  mvcgen [connectedAccount]
  case' vc2.h_1.h_2 | vc5.h_2.h_2 => split <;> mvcgen
  case vc1.h_1.h_1 | vc3.h_1.h_3 | vc2.h_1.h_2.isTrue | vc2.h_1.h_2.isFalse =>
    have h : SoundWith N (Store.TiedUpTo N seen as) _ := ‹_›
    have hk : _=some _ := ‹_›
    simp +zetaDelta only [apply_ite ChannelAccount.id, apply_ite ChannelAccount.sellerId, ite_self]
    exact ⟨h, issuedUpTo_of_found h.1 hk,
      fun hd hn _ hq he => (h.2 hd hn).1.seller_of_mem (Store.mem_of_found hk) hq he⟩
  all_goals
    have h : SoundWith N (Store.TiedUpTo N seen as) _ := ‹_›
    simp +zetaDelta only [apply_ite ChannelAccount.id, apply_ite ChannelAccount.sellerId, ite_self]
    exact ⟨Store.SoundWith.succ Store.TiedUpTo.quiet h, issuedUpTo_next,
      fun hd hn _ hq he => absurd he (Store.TiedUpTo.ne_next h hd hn hq)⟩

-- the shop check only compares domains; its parser stays folded so the conditions stay small
attribute [local irreducible] Consent.shopDomain? in
theorem complete_tied (m : Marketplace) (params : CallbackParams) :
    ⦃fun _ σ => ⌜σ.SoundWith N (Store.TiedUpTo N seen seen)⌝⦄ complete m params
      ⦃post⟨fun _ _ σ => ⌜σ.SoundWith N (Store.TiedUpTo N seen seen)⌝,
        fun _ σ => ⌜σ.SoundWith N (Store.TiedUpTo N seen seen)⌝⟩⦄ := by
  have hc := @consume_kept N (Store.TiedUpTo N seen seen)
  have hx := @Credential.exchangeCode_kept N (Store.TiedUpTo N seen seen)
  have ha := @connectedAccount_tied N seen seen m
  have hr := Subscriptions.register_kept (@Store.TiedUpTo.quiet N seen seen)
  have hp := @Pull.refreshAccount_tied N seen seen
  mvcgen [complete, authorize, hc, hx, ha, hr, hp, SyncM.expect, SyncM.attempt, -complete_sound,
    -Subscriptions.register_sound, -Pull.refreshAccount_sound]
  all_goals
    have h : SoundWith N (Store.TiedUpTo N seen seen) _ ∧ IssuedUpTo N _ _ ∧ _ := ‹_›
    exact Store.TiedUpTo.upsertAccount h.1 (fun _ hp => hp) h.2.1 h.2.2

end Connect

namespace Operation

variable {N : Nat} {seen : List (Uuid × Uuid)}

/-- The accounts an operation writes rows under, as its caller hands them in. -/
def accounts : Operation → List ChannelAccount
  | applyOrder a _ _ | applyRawOrders a _ _ | applyProduct a _ | applyInventory a _ => [a]
  | _ => []

-- the inbound shipment triple is stated over trimmed fields; trimming stays folded
attribute [local irreducible] Text.trim in
theorem run_tied (op : Operation) (hop : ∀ a∈op.accounts, a.owner∈seen) :
    ⦃fun _ σ => ⌜σ.SoundWith N (Store.TiedUpTo N seen seen) ∧ ∀ p∈σ.store.owners, p∈seen⌝⦄
      op.run ⦃post⟨fun _ _ σ => ⌜σ.SoundWith N (Store.TiedUpTo N seen seen)⌝,
        fun _ σ => ⌜σ.SoundWith N (Store.TiedUpTo N seen seen)⌝⟩⦄ := by
  -- only disconnecting and erasing read that every account held is listed: the rows of an
  -- account they drop stay known through the list
  cases op with
  | registerAccount a =>
    mvcgen [run]
    rename_i h
    exact Store.TiedUpTo.upsertAccount (Store.SoundWith.succ Store.TiedUpTo.quiet h.1)
      (fun _ hp => hp) issuedUpTo_next fun hd hn _ hq he => absurd he (Store.TiedUpTo.ne_next h.1 hd hn hq)
  | disconnect id seller =>
    mvcgen [run, SyncM.onStoreE, SyncM.expect]
    case vc1.disconnect.h_1 =>
      rename_i h _ hm
      exact Store.TiedUpTo.deleteAccount h.1 (fun _ hp => hp) h.2 hm
    case vc2.disconnect.h_2 =>
      rename_i h _ _
      exact h.1
  | erase m x =>
    mvcgen [run]
    rename_i h
    exact Store.TiedUpTo.eraseIdentity h.1 (fun _ hp => hp) h.2
  | beginAuthorization request =>
    have h := @Connect.begin_kept N (Store.TiedUpTo N seen seen)
    (mvcgen [run, h, -Connect.begin_sound] with exact ‹_ ∧ _›.1)
  | completeAuthorization m params =>
    have h := @Connect.complete_tied N seen m params
    (mvcgen [run, h, -Connect.complete_sound] with exact ‹_ ∧ _›.1)
  | tokenUpdate id u =>
    (mvcgen [run, SyncM.onStoreE, SyncM.expect] with
      solve_by_elim [Store.SoundWith.applyTokenUpdate Store.TiedUpTo.quiet, And.left])
  | setStatus id status =>
    (mvcgen [run, SyncM.expect] with
      solve_by_elim [Store.SoundWith.setAccountStatus Store.TiedUpTo.quiet, And.left])
  | markSynced id at_ =>
    (mvcgen [run, SyncM.expect] with
      solve_by_elim [Store.SoundWith.markSynced Store.TiedUpTo.quiet, And.left])
  | refreshAccount id =>
    have h := @Pull.refreshAccount_tied N seen seen id
    (mvcgen [run, h, -Pull.refreshAccount_sound] with exact ‹_ ∧ _›.1)
  | applyOrder a o src =>
    have h := @Pipeline.applyOrder_tied N seen seen a o src (hop a (List.mem_singleton_self a))
    (mvcgen [run, h, -Pipeline.applyOrder_sound] with exact ‹_ ∧ _›.1)
  | applyRawOrders a orders src =>
    have h := @Pipeline.applyRawOrders_tied N seen seen a orders src (hop a (List.mem_singleton_self a))
    (mvcgen [run, h, -Pipeline.applyRawOrders_sound] with exact ‹_ ∧ _›.1)
  | applyProduct a p =>
    have h := @Pipeline.applyProduct_tied N seen seen a p (hop a (List.mem_singleton_self a))
    (mvcgen [run, h, -Pipeline.applyProduct_sound] with exact ‹_ ∧ _›.1)
  | applyInventory a stock =>
    have h := @Pipeline.applyStock_tied N seen seen a stock (hop a (List.mem_singleton_self a))
    (mvcgen [run, h, -Pipeline.applyStock_sound] with exact ‹_ ∧ _›.1)
  | recordLabel a input =>
    have h := @Pipeline.recordLabel_tied N seen seen a input
    (mvcgen [run, h, -Pipeline.recordLabel_sound] with exact ‹_ ∧ _›.1)
  | quote request p =>
    have hq := QuoteCache.getOrCreate_kept (@Store.TiedUpTo.quiet N seen seen)
    have hv := @QuoteProvider.quote_kept N (Store.TiedUpTo N seen seen)
    (mvcgen [run, hq, hv, -QuoteProvider.quote_sound] with
      exact ‹_ ∧ _›.1)
  | quoteWith request answer =>
    have hq := QuoteCache.getOrCreate_kept (@Store.TiedUpTo.quiet N seen seen)
    (mvcgen [run, hq, SyncM.expect] with exact ‹_ ∧ _›.1)
  | createInboundShipment a request =>
    have h := Amazon.createInboundShipment_kept (@Store.TiedUpTo.quiet N seen seen)
    (mvcgen [run, h, -Amazon.createInboundShipment_sound] with exact ‹_ ∧ _›.1)
  | fetchInboundLabels a shipmentId request =>
    have h := Amazon.fetchInboundLabels_kept (@Store.TiedUpTo.quiet N seen seen)
    (mvcgen [run, h, -Amazon.fetchInboundLabels_sound] with exact ‹_ ∧ _›.1)

theorem apply_tied (c : Context) (op : Operation) (hop : ∀ a∈op.accounts, a.owner∈seen)
    {σ : Service} (h : σ.SoundWith N (Store.TiedUpTo N seen seen))
    (hs : ∀ p∈σ.store.owners, p∈seen) : (op.apply c σ).SoundWith N (Store.TiedUpTo N seen seen) :=
  SyncM.post_of_triple (op.run_tied hop) c ⟨h, hs⟩

end Operation

/-- The runs of operations from an empty service, with the account ids and sellers the store
held before each step. An operation writing rows under an account it is handed is for an
account held then or before, as when its caller looked the account up. -/
inductive Run : List (Uuid × Uuid) → Service → Prop
  | empty : Run [] {}
  | step {seen : List (Uuid × Uuid)} {σ : Service} (c : Context) (op : Operation) :
      Run seen σ → (∀ a∈op.accounts, a.owner∈seen ++ σ.store.owners) →
      Run (seen ++ σ.store.owners) (op.apply c σ)

theorem Run.tied {seen : List (Uuid × Uuid)} {σ : Service} (h : Run seen σ) (N : Nat) :
    σ.SoundWith N (Store.TiedUpTo N seen seen) := by
  induction h with
  | empty => exact ⟨Store.SoundUpTo.empty, fun _ _ => ⟨Store.tied_empty, by simp, by simp⟩⟩
  | step c op _ hop ih =>
    exact op.apply_tied c hop (Store.TiedUpTo.extend ih) fun _ hp => List.mem_append_right _ hp

/-- Along every run, while the ids handed out are distinct, the store's tables refer to each
other consistently, and every account row keeps the seller its id was ever held with. -/
theorem Run.store_linked {seen : List (Uuid × Uuid)} {σ : Service} (h : Run seen σ)
    (hd : Distinct σ.issued) :
    σ.store.Linked ∧ ∀ a∈σ.store.accounts, ∀ p∈seen, p.1=a.id → p.2=a.sellerId := by
  obtain ⟨hs, ht⟩ := h.tied σ.issued
  obtain ⟨ht, -, -⟩ := ht hd le_rfl
  exact ⟨ht.linked (hs hd le_rfl).keyed, fun a ha p hp he => ht.seller_of_mem ha (.inl hp) he⟩

/-- An order with a customer and a line, ingested for a registered account: the run's store is
linked and the account keeps its seller. -/
theorem order_links_after_register :
    let c : Context := ⟨default, RetryPolicy.immediate 3, Span.ofSeconds 60, ⟨0, 0⟩,
      Network.unreachable⟩
    let a := ChannelAccount.new (idOf 1) ⟨7⟩ .shopify (some "a.myshopify.com") ⟨0, 0⟩
    let o : IncomingOrder :=
      { externalOrderId := "1001", status := "paid", currency := none, totals := {},
        placedAt := none, closedAt := none, marketplaceId := none, fulfillmentChannel := none,
        customer := some { email := some "b@example.com" },
        lines := [{ externalLineId := some "10", sku := some "SKU-1", quantity := 1 }],
        shipTo := {}, fulfillmentCost := none, labelHint := false, raw := .null }
    let σ₀ := (Operation.registerAccount a).apply c {}
    let σ₁ := (Operation.applyOrder a o .poll).apply c σ₀
    ∃ seen, Run seen σ₁ ∧ Distinct σ₁.issued ∧ σ₁.store.lines.length=1 ∧
      σ₁.store.customers.length=1 ∧ σ₁.store.items.length=1 ∧ seen=[a.owner] ∧
      σ₁.store.Linked ∧ ∀ b∈σ₁.store.accounts, ∀ p∈seen, p.1=b.id → p.2=b.sellerId := by
  intro c a o σ₀ σ₁
  have h : Run ([] ++ ({} : Service).store.owners ++ σ₀.store.owners) σ₁ :=
    .step c _ (.step c _ .empty fun _ hb => absurd hb List.not_mem_nil) (by decide +kernel)
  have hd : Distinct σ₁.issued := distinct_of_lt (by decide +kernel)
  exact ⟨_, h, hd, by decide +kernel, by decide +kernel, by decide +kernel, by decide +kernel,
    Run.store_linked h hd⟩

end SellerSync
