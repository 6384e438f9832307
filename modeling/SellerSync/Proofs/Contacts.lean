import SellerSync.Proofs.Steady
import SellerSync.Proofs.CustomerMatch
import SellerSync.Proofs.ErasureScope
/-! Contact details single out a seller's customers. -/
namespace SellerSync

namespace Customer

/-- Two customers of different sellers, or of one seller with different emails and different
phones where the first has them. -/
def ContactsApart (c d : Customer) : Prop :=
  c.sellerId=d.sellerId → (c.email.isSome → c.email≠d.email) ∧ (c.phone.isSome → c.phone≠d.phone)

instance : DecidableRel ContactsApart := fun _ _ => inferInstanceAs (Decidable (_ → _))

theorem contactsApart_of_sharesContact {cand : CustomerCandidate} {d c : Customer}
    (hs : cand.sharesContact d=false) (he : c.email=cand.email) (hp : c.phone=cand.phone) :
    d.ContactsApart c := by
  intro _
  simp only [CustomerCandidate.sharesContact, Bool.or_eq_false_iff, Bool.and_eq_false_iff,
    beq_eq_false_iff_ne] at hs
  obtain ⟨hse, hsp⟩ := hs
  refine ⟨fun hd hdc => ?_, fun hd hdc => ?_⟩
  · have hde : d.email=cand.email := hdc.trans he
    rcases hse with h | h
    · simp [← hde, hd] at h
    · exact h hde
  · have hdp : d.phone=cand.phone := hdc.trans hp
    rcases hsp with h | h
    · simp [← hdp, hd] at h
    · exact h hdp

end Customer

namespace Store

/-- No two customers of one seller share an email, and no two share a phone. -/
def ContactsUnique (s : Store) : Prop := s.customers.Pairwise Customer.ContactsApart

instance : DecidablePred ContactsUnique := fun _ => inferInstanceAs (Decidable (List.Pairwise _ _))

variable {s : Store}

/-! What each write leaves of the customers: all of it, resolving a customer apart, and the audit
lines and labels touch nothing else. -/

@[simp] theorem upsertAccount_customers (a : ChannelAccount) (now : Instant) :
    (s.upsertAccount a now).2.customers=s.customers := rfl

theorem customers_of_modifyAccount {id : Uuid} {g : ChannelAccount → ChannelAccount}
    {r : ChannelAccount × Store} (hm : s.modifyAccount id g=.ok r) : r.2.customers=s.customers := by
  unfold modifyAccount at hm
  split at hm
  next => contradiction
  next => cases hm; rfl

theorem customers_of_deleteAccount {id seller : Uuid} {r : Bool × Store}
    (hm : s.deleteAccount id seller=.ok r) : r.2.customers=s.customers := by
  unfold deleteAccount at hm
  split at hm
  next => cases hm; rfl
  next =>
    split at hm
    next => contradiction
    next => cases hm; rfl

@[simp] theorem upsertItem_customers (seller : Uuid) (sku title : String) (fresh : Uuid)
    (now : Instant) : (s.upsertItem seller sku title fresh now).2.customers=s.customers := by
  unfold upsertItem
  split <;> rfl

@[simp] theorem upsertItemLink_customers (account : ChannelAccount) (link : NewItemLink)
    (fresh : Uuid) (now : Instant) :
    (s.upsertItemLink account link fresh now).2.customers=s.customers := rfl

@[simp] theorem touchItemLink_customers (id : Uuid) (now : Instant) :
    (s.touchItemLink id now).customers=s.customers := rfl

@[simp] theorem upsertOrder_customers (o : StoredOrder) : (s.upsertOrder o).2.customers=s.customers :=
  rfl

@[simp] theorem upsertLine_customers (l : StoredLine) : (s.upsertLine l).2.customers=s.customers := by
  simp only [upsertLine]
  split <;> rfl

@[simp] theorem upsertStock_customers (item account : Uuid) (location : Option String)
    (available : Int) (fresh : Uuid) (now : Instant) :
    (s.upsertStock item account location available fresh now).2.customers=s.customers := rfl

@[simp] theorem upsertQuote_customers (q : CachedQuote) : (s.upsertQuote q).2.customers=s.customers :=
  rfl

@[simp] theorem upsertInbound_customers (x : InboundShipment) (now : Instant) :
    (s.upsertInbound x now).2.customers=s.customers := rfl

theorem customers_of_recordInboundLabels {account : Uuid} {shipmentId : String}
    {labels : InboundLabels} {now : Instant} {x : InboundShipment} {s' : Store}
    (hr : s.recordInboundLabels account shipmentId labels now=some (x, s')) :
    s'.customers=s.customers := by
  unfold recordInboundLabels at hr
  cases he : s.inbound? account shipmentId with
  | none => simp [he] at hr
  | some e =>
    simp only [he, Option.map_some, Option.some.injEq, Prod.mk.injEq] at hr
    rw [← hr.2]

@[simp] theorem eraseIdentity_customers (m : Marketplace) (x : String) (fresh : Uuid)
    (now : Instant) : (s.eraseIdentity m x fresh now).2.customers=s.customers := by
  obtain ⟨req, hs⟩ := eraseIdentity_snd s m x fresh now
  rw [hs]
  rfl

theorem Stable.of_customers {J : List Customer → Prop}
    (hr : ∀ {s : Store} (seller account : Uuid) (ext : Option String) (cand : CustomerCandidate)
      (fresh : Uuid) (now : Instant), J s.customers →
        J (s.resolveCustomer seller account ext cand fresh now).2.customers) :
    Stable fun s => J s.customers where
  upsertAccount _ _ h := by simpa using h
  modifyAccount h hm := by rwa [customers_of_modifyAccount hm]
  deleteAccount h hm := by rwa [customers_of_deleteAccount hm]
  upsertItem _ _ _ _ _ h := by simpa using h
  upsertItemLink _ _ _ _ h := by simpa using h
  touchItemLink _ _ h := by simpa using h
  resolveCustomer := hr
  upsertCustomerLink _ _ _ _ _ _ h := by simpa using h
  upsertOrder _ h := by simpa using h
  upsertLine _ h := by simpa using h
  upsertStock _ _ _ _ _ _ h := by simpa using h
  upsertQuote _ h := by simpa using h
  upsertInbound _ _ h := by simpa using h
  recordInboundLabels h hr := by rwa [customers_of_recordInboundLabels hr]
  eraseIdentity _ _ _ _ h := by simpa using h

variable {seller account : Uuid} {ext : Option String} {cand : CustomerCandidate} {fresh : Uuid}
  {now : Instant}

theorem contactMatch_eq_none_iff : s.contactMatch seller cand=none ↔
    ∀ c∈s.customers, c.sellerId=seller → cand.sharesContact c=false := by
  unfold contactMatch
  rw [Rows.earliest_eq_none, List.filter_eq_nil_iff]
  simp

theorem contactMatch_eq_none_of_customerMatch (h : s.customerMatch seller account ext cand=none) :
    s.contactMatch seller cand=none := by
  simp only [customerMatch, Option.or_eq_none_iff, Option.map_eq_none_iff] at h
  exact h.1

theorem contactsApart_map {g : Customer → Customer} (hg : KeepsContact g) {c d : Customer} :
    (g c).ContactsApart (g d) ↔ c.ContactsApart d := by
  obtain ⟨-, hcs, hce, hcp, -⟩ := hg c
  obtain ⟨-, hds, hde, hdp, -⟩ := hg d
  simp only [Customer.ContactsApart, hcs, hce, hcp, hds, hde, hdp]

theorem ContactsUnique.resolveCustomer (h : s.ContactsUnique) :
    (s.resolveCustomer seller account ext cand fresh now).2.ContactsUnique := by
  cases hm : s.customerMatch seller account ext cand with
  | some id =>
    obtain ⟨g, hg, hr⟩ := resolveCustomer_of_match fresh now hm
    rw [hr]
    exact List.pairwise_map.2 (h.imp (contactsApart_map hg).2)
  | none =>
    obtain ⟨c, -, hs, he, hp, hr⟩ := resolveCustomer_of_none fresh now hm
    have hfree := contactMatch_eq_none_iff.1 (contactMatch_eq_none_of_customerMatch hm)
    rw [hr]
    refine List.pairwise_append.2 ⟨h, List.pairwise_singleton _ _, fun d hd c' hc' => ?_⟩
    rw [List.mem_singleton.1 hc']
    intro hdc
    exact Customer.contactsApart_of_sharesContact (hfree d hd (hdc.trans hs)) he hp hdc

theorem ContactsUnique.steady (N : Nat) : Steady N fun _ s => s.ContactsUnique :=
  Steady.of_stable
    (@Stable.of_customers (fun cs => cs.Pairwise Customer.ContactsApart)
      fun _ _ _ _ _ _ h => ContactsUnique.resolveCustomer h)
    (fun _ h => h) (fun _ h => h)

theorem resolveCustomer_ids_of_sharesContact {c : Customer} (hc : c∈s.customers)
    (hs : c.sellerId=seller) (hsh : cand.sharesContact c=true) :
    (s.resolveCustomer seller account ext cand fresh now).2.customers.map (·.id)=
      s.customers.map (·.id) := by
  have hsome : s.contactMatch seller cand≠none := fun hn => by
    simp [contactMatch_eq_none_iff.1 hn c hc hs] at hsh
  obtain ⟨d, hd⟩ := Option.ne_none_iff_exists'.1 hsome
  have hm : s.customerMatch seller account ext cand=some d.id := by simp [customerMatch, hd]
  obtain ⟨g, hg, hr⟩ := resolveCustomer_of_match fresh now hm
  rw [hr, List.map_map]
  exact List.map_congr_left fun c _ => (hg c).1

end Store

/-- In every reachable service no two customers of one seller share an email, and no two share
a phone; details sharing either with a customer of the seller resolve without creating one. -/
theorem reachable_customer_contacts_unique {σ : Service} (h : Reachable σ) :
    σ.store.customers.Pairwise Customer.ContactsApart ∧
      ∀ (seller account : Uuid) (ext : Option String) (cand : CustomerCandidate) (fresh : Uuid)
        (now : Instant), (∃ c∈σ.store.customers, c.sellerId=seller ∧ cand.sharesContact c) →
        (σ.store.resolveCustomer seller account ext cand fresh now).2.customers.map (·.id)=
          σ.store.customers.map (·.id) := by
  refine ⟨(Reachable.soundWith (Store.ContactsUnique.steady 0) List.Pairwise.nil h).2, ?_⟩
  rintro seller account ext cand fresh now ⟨c, hc, hs, hsh⟩
  exact Store.resolveCustomer_ids_of_sharesContact hc hs hsh

/-- Orders through a seller's shop and its eBay account with one email leave one customer. -/
theorem orders_sharing_email_one_customer :
    let c : Context := ⟨default, RetryPolicy.immediate 3, Span.ofSeconds 60, ⟨0, 0⟩,
      Network.unreachable⟩
    let a := ChannelAccount.new (Service.idOf 1) ⟨7⟩ .shopify (some "a.myshopify.com") ⟨0, 0⟩
    let b := ChannelAccount.new (Service.idOf 2) ⟨7⟩ .ebay (some "b-store") ⟨0, 0⟩
    let o : IncomingOrder :=
      { externalOrderId := "1001", status := "paid", currency := none, totals := {},
        placedAt := none, closedAt := none, marketplaceId := none, fulfillmentChannel := none,
        customer := some { email := some "b@example.com" },
        lines := [{ externalLineId := some "10", sku := some "SKU-1", quantity := 1 }],
        shipTo := {}, fulfillmentCost := none, labelHint := false, raw := .null }
    let o' : IncomingOrder :=
      { o with externalOrderId := "2001",
               customer := some { email := some "b@example.com", phone := some "555-0100" } }
    let σ := (Operation.applyOrder b o' .poll).apply c <| (Operation.applyOrder a o .poll).apply c <|
      (Operation.registerAccount b).apply c <| (Operation.registerAccount a).apply c {}
    Reachable σ ∧ σ.store.customers.length=1 ∧ σ.store.customers.Pairwise Customer.ContactsApart := by
  intro c a b o o' σ
  have h : Reachable σ := .step c _ (.step c _ (.step c _ (.step c _ .empty)))
  exact ⟨h, by decide +kernel, (reachable_customer_contacts_unique h).1⟩

end SellerSync
