import SellerSync.Store.Customers
import SellerSync.Proofs.Rows
/-! Which existing customer an order's details resolve to: the seller's earliest customer sharing the
email or phone, failing that the customer the external id is linked to on the account. -/
namespace SellerSync.Store

/-- The seller's earliest customer sharing the candidate's email or phone. -/
def contactMatch (s : Store) (seller : Uuid) (cand : CustomerCandidate) : Option Customer :=
  Rows.earliest (fun a b => Instant.lt a.createdAt b.createdAt)
    (s.customers.filter fun c => c.sellerId == seller && cand.sharesContact c)

/-- The existing customer an external id is linked to on the account. -/
def linkMatch (s : Store) (account : Uuid) (ext : String) : Option Uuid :=
  (s.customerLinks.find? fun m => m.accountId == account && m.externalId == ext).bind fun m =>
    if s.customers.any (·.id == m.customerId) then some m.customerId else none

/-- The existing customer that contact details, then an external id, resolve to. -/
def customerMatch (s : Store) (seller account : Uuid) (ext : Option String)
    (cand : CustomerCandidate) : Option Uuid :=
  ((s.contactMatch seller cand).map (·.id)).or (ext.bind fun e => s.linkMatch account e)

/-- A change to customers that keeps what matching reads: id, seller, contact details and age. -/
def KeepsContact (g : Customer → Customer) : Prop :=
  ∀ c, (g c).id=c.id ∧ (g c).sellerId=c.sellerId ∧ (g c).email=c.email ∧ (g c).phone=c.phone ∧
    (g c).createdAt=c.createdAt

variable {s : Store} {seller account : Uuid} {ext : Option String} {cand : CustomerCandidate}
  {fresh : Uuid} {now : Instant}

@[simp] theorem resolveCustomer_customerLinks :
    (s.resolveCustomer seller account ext cand fresh now).2.customerLinks=s.customerLinks := by
  simp only [resolveCustomer]
  split <;> rfl

@[simp] theorem resolveCustomer_orders :
    (s.resolveCustomer seller account ext cand fresh now).2.orders=s.orders := by
  simp only [resolveCustomer]
  split <;> rfl

theorem resolveCustomer_of_match (fresh : Uuid) (now : Instant) {id : Uuid}
    (h : s.customerMatch seller account ext cand=some id) :
    ∃ g, KeepsContact g ∧ s.resolveCustomer seller account ext cand fresh now=
      (id, { s with customers := s.customers.map g }) := by
  simp only [customerMatch, contactMatch, linkMatch] at h
  simp only [resolveCustomer, h]
  refine ⟨_, fun c => ?_, rfl⟩
  cases cand.address with
  | none => simp
  | some addr => dsimp only; split <;> simp

theorem resolveCustomer_of_none (fresh : Uuid) (now : Instant)
    (h : s.customerMatch seller account ext cand=none) :
    ∃ c : Customer, c.id=fresh ∧ c.sellerId=seller ∧ c.email=cand.email ∧ c.phone=cand.phone ∧
      s.resolveCustomer seller account ext cand fresh now=
        (fresh, { s with customers := s.customers ++ [c] }) := by
  simp only [customerMatch, contactMatch, linkMatch] at h
  simp only [resolveCustomer, h]
  exact ⟨_, rfl, rfl, rfl, rfl, rfl⟩

theorem resolveCustomer_snd (fresh : Uuid) (now : Instant) :
    ∃ customers, (s.resolveCustomer seller account ext cand fresh now).2={ s with customers } := by
  cases h : s.customerMatch seller account ext cand with
  | none =>
    obtain ⟨_, -, -, -, -, hr⟩ := resolveCustomer_of_none fresh now h
    exact ⟨_, by rw [hr]⟩
  | some id =>
    obtain ⟨_, -, hr⟩ := resolveCustomer_of_match fresh now h
    exact ⟨_, by rw [hr]⟩

theorem resolveCustomer_fst :
    (s.resolveCustomer seller account ext cand fresh now).1=
      (s.customerMatch seller account ext cand).getD fresh := by
  cases h : s.customerMatch seller account ext cand with
  | none =>
    obtain ⟨_, -, -, -, -, hr⟩ := resolveCustomer_of_none fresh now h
    simp [hr]
  | some id =>
    obtain ⟨_, -, hr⟩ := resolveCustomer_of_match fresh now h
    simp [hr]

theorem contactMatch_map {g : Customer → Customer} (hg : KeepsContact g) :
    ({ s with customers := s.customers.map g } : Store).contactMatch seller cand=
      (s.contactMatch seller cand).map g := by
  have hp : ((fun c => c.sellerId == seller && cand.sharesContact c) ∘ g)=
      fun c => c.sellerId == seller && cand.sharesContact c := by
    funext c
    obtain ⟨-, hs, he, hph, -⟩ := hg c
    simp [CustomerCandidate.sharesContact, hs, he, hph]
  unfold contactMatch
  rw [List.filter_map, hp]
  exact Rows.earliest_map g fun a b => by simp [(hg a).2.2.2.2, (hg b).2.2.2.2]

theorem linkMatch_map {g : Customer → Customer} (hg : KeepsContact g) (e : String) :
    ({ s with customers := s.customers.map g } : Store).linkMatch account e=
      s.linkMatch account e := by
  simp [linkMatch, List.any_map, Function.comp_def, fun c => (hg c).1]

theorem customerMatch_map {g : Customer → Customer} (hg : KeepsContact g) :
    ({ s with customers := s.customers.map g } : Store).customerMatch seller account ext cand=
      s.customerMatch seller account ext cand := by
  simp [customerMatch, contactMatch_map hg, linkMatch_map hg, Option.map_map, Function.comp_def,
    fun c => (hg c).1]

theorem contactMatch_append (h : s.contactMatch seller cand=none) (c : Customer) :
    ({ s with customers := s.customers ++ [c] } : Store).contactMatch seller cand=
      if c.sellerId == seller && cand.sharesContact c then some c else none := by
  unfold contactMatch at *
  rw [Rows.earliest_eq_none] at h
  rw [List.filter_append, h, List.nil_append, List.filter_cons, List.filter_nil]
  split <;> rfl

@[simp] theorem upsertCustomerLink_customers (a : ChannelAccount) (id : Uuid) (e : String)
    (raw : Json) : (s.upsertCustomerLink a id e raw fresh now).2.customers=s.customers := rfl

@[simp] theorem upsertCustomerLink_orders (a : ChannelAccount) (id : Uuid) (e : String)
    (raw : Json) : (s.upsertCustomerLink a id e raw fresh now).2.orders=s.orders := rfl

theorem linkMatch_upsertCustomerLink (a : ChannelAccount) (id : Uuid) (e : String)
    (raw : Json) : (s.upsertCustomerLink a id e raw fresh now).2.linkMatch a.id e=
      if s.customers.any (·.id == id) then some id else none := by
  have hfind : ((s.upsertCustomerLink a id e raw fresh now).2.customerLinks.find? fun m =>
      m.accountId == a.id && m.externalId == e)=
        some (s.upsertCustomerLink a id e raw fresh now).1 := by
    apply Rows.find?_put (by simp)
    cases s.customerLinks.find? fun m => m.accountId == a.id && m.externalId == e <;> simp
  rw [linkMatch, hfind]
  rfl

theorem customerMatch_resolveCustomer (hc : cand.email.isSome || cand.phone.isSome) :
    (s.resolveCustomer seller account ext cand fresh now).2.customerMatch seller account ext cand=
      some (s.resolveCustomer seller account ext cand fresh now).1 := by
  cases hm : s.customerMatch seller account ext cand with
  | some id =>
    obtain ⟨g, hg, hr⟩ := resolveCustomer_of_match fresh now hm
    rw [hr, customerMatch_map hg]
    exact hm
  | none =>
    obtain ⟨c, hid, hs, he, hp, hr⟩ := resolveCustomer_of_none fresh now hm
    have hnone : s.contactMatch seller cand=none := by
      simp only [customerMatch, Option.or_eq_none_iff, Option.map_eq_none_iff] at hm
      exact hm.1
    have hshare : (c.sellerId == seller && cand.sharesContact c)=true := by
      simp [CustomerCandidate.sharesContact, hs, he, hp, hc]
    rw [hr]
    simp [customerMatch, contactMatch_append hnone, hshare, hid]

theorem mem_of_contactMatch {c : Customer} (h : s.contactMatch seller cand=some c) :
    c ∈ s.customers := by
  unfold contactMatch at h
  exact (List.mem_filter.1 (Rows.mem_of_earliest h)).1

theorem customerMatch_any {id : Uuid} (h : s.customerMatch seller account ext cand=some id) :
    s.customers.any (·.id == id)=true := by
  unfold customerMatch at h
  cases hc : s.contactMatch seller cand with
  | some c =>
    simp only [hc, Option.map_some, Option.some_or, Option.some.injEq] at h
    exact List.any_eq_true.2 ⟨c, mem_of_contactMatch hc, by simp [h]⟩
  | none =>
    simp only [hc, Option.map_none, Option.none_or, Option.bind_eq_some_iff] at h
    obtain ⟨e, -, hl⟩ := h
    simp only [linkMatch, Option.bind_eq_some_iff] at hl
    obtain ⟨m, -, hl⟩ := hl
    split at hl
    · cases hl; assumption
    · contradiction

theorem customerMatch_upsertCustomerLink (a : ChannelAccount) (e : String) (raw : Json)
    (fresh' : Uuid) (now' : Instant) :
    let r := s.resolveCustomer seller a.id (some e) cand fresh now
    (r.2.upsertCustomerLink a r.1 e raw fresh' now').2.customerMatch seller a.id (some e) cand=
      some r.1 := by
  intro r
  have hcontact : (r.2.upsertCustomerLink a r.1 e raw fresh' now').2.contactMatch seller cand=
      r.2.contactMatch seller cand := rfl
  cases hm : s.customerMatch seller a.id (some e) cand with
  | some id =>
    obtain ⟨g, hg, hr⟩ := resolveCustomer_of_match fresh now hm
    have hany : (s.customers.map g).any (·.id == id)=true := by
      simpa [List.any_map, Function.comp_def, fun c => (hg c).1] using customerMatch_any hm
    simp only [r, hr] at hcontact ⊢
    rw [customerMatch, hcontact, Option.bind_some, linkMatch_upsertCustomerLink, if_pos hany,
      contactMatch_map hg]
    unfold customerMatch at hm
    cases hc : s.contactMatch seller cand <;> simp_all [(hg _).1]
  | none =>
    obtain ⟨c, hid, hs, he, hp, hr⟩ := resolveCustomer_of_none fresh now hm
    have hnone : s.contactMatch seller cand=none := by
      simp only [customerMatch, Option.or_eq_none_iff, Option.map_eq_none_iff] at hm
      exact hm.1
    have hany : (s.customers ++ [c]).any (·.id == fresh)=true := by simp [hid]
    simp only [r, hr] at hcontact ⊢
    rw [customerMatch, hcontact, Option.bind_some, linkMatch_upsertCustomerLink, if_pos hany,
      contactMatch_append hnone]
    split <;> simp [hid]

end SellerSync.Store
