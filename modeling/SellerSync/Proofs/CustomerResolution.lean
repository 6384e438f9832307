import SellerSync.Proofs.Contacts
import SellerSync.Proofs.QuoteCache
import SellerSync.Proofs.LinkedRuns
/-! Resolving an order's customer ends in one of three ways: a contact match, a linked customer, or a
new customer made from the order. -/
namespace SellerSync

namespace Rows

variable {α : Type} {before : α → α → Bool}

theorem not_before_trans (hco : ∀ a b c, before a c = true → before a b = true ∨ before b c = true)
    {x y z : α} (hxy : before x y = false) (hyz : before y z = false) : before x z = false := by
  cases hxz : before x z
  · rfl
  · rcases hco x y z hxz with h | h
    · rw [hxy] at h; cases h
    · rw [hyz] at h; cases h

theorem earliest_spec (hasymm : ∀ a b, before a b = true → before b a = false)
    (hco : ∀ a b c, before a c = true → before a b = true ∨ before b c = true) {l : List α} {x : α}
    (h : earliest before l = some x) : x ∈ l ∧ ∀ y ∈ l, before y x = false := by
  cases l with
  | nil => simp [earliest] at h
  | cons b ys =>
    simp only [earliest, Option.some.injEq] at h
    subst h
    induction ys generalizing b with
    | nil =>
      simp only [List.foldl_nil]
      refine ⟨List.mem_singleton_self b, fun y hy => ?_⟩
      rw [List.mem_singleton.1 hy]
      cases hb : before b b
      · rfl
      · simpa [hb] using hasymm b b hb
    | cons z zs ih =>
      simp only [List.foldl_cons]
      by_cases hzb : before z b = true
      · -- the new row takes over, and the old best is not before it since it came after
        simp only [hzb, if_true] at ih ⊢
        obtain ⟨hmem, hfirst⟩ := ih z
        refine ⟨List.mem_cons_of_mem _ hmem, fun y hy => ?_⟩
        obtain rfl | hy : y = b ∨ y ∈ z :: zs := List.mem_cons.1 hy
        · exact not_before_trans hco (hasymm _ _ hzb) (hfirst z List.mem_cons_self)
        · exact hfirst y hy
      · -- the best so far stays, and the new row is not before it
        simp only [hzb, Bool.false_eq_true, if_false] at ih ⊢
        obtain ⟨hmem, hfirst⟩ := ih b
        refine ⟨List.cons_subset_cons _ (List.subset_cons_self _ _) hmem, fun y hy => ?_⟩
        obtain rfl | rfl | hy : y = b ∨ y = z ∨ y ∈ zs := by simpa using hy
        · exact hfirst y List.mem_cons_self
        · exact not_before_trans hco (Bool.eq_false_iff.2 hzb) (hfirst b List.mem_cons_self)
        · exact hfirst y (List.mem_cons_of_mem _ hy)

end Rows

namespace CustomerCandidate

theorem sharesContact_iff {cand : CustomerCandidate} {c : Customer} :
    cand.sharesContact c = true ↔
      (∃ e, cand.email = some e ∧ c.email = some e) ∨
        (∃ p, cand.phone = some p ∧ c.phone = some p) := by
  simp only [sharesContact, Bool.or_eq_true, Bool.and_eq_true, beq_iff_eq, Option.isSome_iff_exists]
  constructor
  · rintro (⟨⟨e, he⟩, hc⟩ | ⟨⟨p, hp⟩, hc⟩)
    · exact .inl ⟨e, he, hc.trans he⟩
    · exact .inr ⟨p, hp, hc.trans hp⟩
  · rintro (⟨e, he, hc⟩ | ⟨p, hp, hc⟩)
    · exact .inl ⟨⟨e, he⟩, hc.trans he.symm⟩
    · exact .inr ⟨⟨p, hp⟩, hc.trans hp.symm⟩

/-- The customer a candidate creates under `id` for `seller` at `now`. -/
def toCustomer (cand : CustomerCandidate) (id seller : Uuid) (now : Instant) : Customer :=
  { id, sellerId := seller, email := cand.email, phone := cand.phone, firstName := cand.firstName,
    lastName := cand.lastName, addresses := cand.address.toList, createdAt := now, updatedAt := now }

end CustomerCandidate

/-- The customer with an address added and stamped at `now`, unless it already has it. -/
def Customer.withAddress (c : Customer) (addr : Option Address) (now : Instant) : Customer :=
  match addr with
  | some a =>
    if c.addresses.contains a then c else { c with addresses := c.addresses ++ [a], updatedAt := now }
  | none => c

namespace Store

/-- The store with the customers under `id` given an address. -/
def withAddress (s : Store) (id : Uuid) (addr : Option Address) (now : Instant) : Store :=
  { s with customers := s.customers.map fun c => if c.id = id then c.withAddress addr now else c }

variable {s : Store} {seller account : Uuid} {ext : Option String} {cand : CustomerCandidate}
  {fresh : Uuid} {now : Instant}

theorem resolveCustomer_of_customerMatch {id : Uuid}
    (h : s.customerMatch seller account ext cand = some id) :
    s.resolveCustomer seller account ext cand fresh now = (id, s.withAddress id cand.address now) := by
  simp only [customerMatch, contactMatch, linkMatch] at h
  simp only [resolveCustomer, h, withAddress, Prod.mk.injEq, true_and]
  congr 1
  refine List.map_congr_left fun c _ => ?_
  cases cand.address with
  | none => simp [Customer.withAddress]
  | some a =>
    by_cases hc : c.id = id <;> simp [Customer.withAddress, hc]

theorem resolveCustomer_of_customerMatch_none (h : s.customerMatch seller account ext cand = none) :
    s.resolveCustomer seller account ext cand fresh now =
      (fresh, { s with customers := s.customers ++ [cand.toCustomer fresh seller now] }) := by
  simp only [customerMatch, contactMatch, linkMatch] at h
  simp only [resolveCustomer, h]
  rfl

theorem contactMatch_spec {c : Customer} (h : s.contactMatch seller cand = some c) :
    c ∈ s.customers ∧ c.sellerId = seller ∧ cand.sharesContact c = true ∧
      ∀ d ∈ s.customers, d.sellerId = seller → cand.sharesContact d = true →
        d.createdAt.lt c.createdAt = false := by
  unfold contactMatch at h
  obtain ⟨hmem, hfirst⟩ := @Rows.earliest_spec _ (fun a b : Customer => a.createdAt.lt b.createdAt)
    (fun _ _ => Instant.lt_asymm) (fun _ _ _ => Instant.lt_cotrans) _ _ h
  obtain ⟨hc, hsc⟩ := List.mem_filter.1 hmem
  simp only [Bool.and_eq_true, beq_iff_eq] at hsc
  exact ⟨hc, hsc.1, hsc.2,
    fun d hd hds hdc => hfirst d (List.mem_filter.2 ⟨hd, by simp [hds, hdc]⟩)⟩

theorem linkMatch_eq_some {x : String} {m : CustomerLink}
    (hm : s.customerLinks.find? (fun m => m.accountId == account && m.externalId == x) = some m)
    (hc : ∃ c ∈ s.customers, c.id = m.customerId) : s.linkMatch account x = some m.customerId := by
  obtain ⟨c, hc, hid⟩ := hc
  simp only [linkMatch, hm, Option.bind_some, List.any_eq_true, beq_iff_eq]
  rw [if_pos ⟨c, hc, hid⟩]

theorem linkMatch_eq_none {x : String}
    (h : ∀ m, s.customerLinks.find? (fun m => m.accountId == account && m.externalId == x) = some m →
      ∀ c ∈ s.customers, c.id ≠ m.customerId) : s.linkMatch account x = none := by
  unfold linkMatch
  cases hm : s.customerLinks.find? (fun m => m.accountId == account && m.externalId == x) with
  | none => rfl
  | some m => simpa using h m hm

end Store

open Store

theorem Run.customerLinks_stored {seen : List (Uuid × Uuid)} {σ : Service} (h : Run seen σ)
    (hd : Service.Distinct σ.issued) :
    ∀ m ∈ σ.store.customerLinks, ∃ c ∈ σ.store.customers, c.id = m.customerId := by
  obtain ⟨-, ht⟩ := h.tied σ.issued
  obtain ⟨ht, -, -⟩ := ht hd le_rfl
  intro m hm
  obtain ⟨_, ⟨c, hc, hid, -⟩, -⟩ := ht.customerLinks m hm
  exact ⟨c, hc, hid⟩

/-- Resolving a customer, for every store: the seller's earliest customer sharing the order's
email or phone; else the stored customer the external id is linked to on the account; else a new
customer with the order's details, appended. A customer found only gains the order's address.
Along every run of the service a customer link always leads to a stored customer. -/
theorem resolveCustomer_cases :
    (∀ (s : Store) seller account ext (cand : CustomerCandidate) fresh now,
      ((∃ c ∈ s.customers, c.sellerId = seller ∧ cand.sharesContact c = true) →
        ∃ c ∈ s.customers, c.sellerId = seller ∧ cand.sharesContact c = true ∧
          (∀ d ∈ s.customers, d.sellerId = seller → cand.sharesContact d = true →
            d.createdAt.lt c.createdAt = false) ∧
          s.resolveCustomer seller account ext cand fresh now =
            (c.id, s.withAddress c.id cand.address now)) ∧
      (∀ x m, (∀ c ∈ s.customers, c.sellerId = seller → cand.sharesContact c = false) →
        ext = some x →
        s.customerLinks.find? (fun m => m.accountId == account && m.externalId == x) = some m →
        (∃ c ∈ s.customers, c.id = m.customerId) →
        s.resolveCustomer seller account ext cand fresh now =
          (m.customerId, s.withAddress m.customerId cand.address now)) ∧
      ((∀ c ∈ s.customers, c.sellerId = seller → cand.sharesContact c = false) →
        (∀ x m, ext = some x →
          s.customerLinks.find? (fun m => m.accountId == account && m.externalId == x) = some m →
          ∀ c ∈ s.customers, c.id ≠ m.customerId) →
        s.resolveCustomer seller account ext cand fresh now =
          (fresh, { s with customers := s.customers ++ [cand.toCustomer fresh seller now] }))) ∧
    (∀ seen (σ : Service), Run seen σ → Service.Distinct σ.issued →
      ∀ m ∈ σ.store.customerLinks, ∃ c ∈ σ.store.customers, c.id = m.customerId) := by
  refine ⟨fun s seller account ext cand fresh now => ⟨fun hshare => ?_, fun x m hnone hx hm hc => ?_,
    fun hnone hlink => ?_⟩, fun _ _ h hd => Run.customerLinks_stored h hd⟩
  · -- a customer shares the contact, so the earliest one is found
    cases hcm : s.contactMatch seller cand with
    | none =>
      obtain ⟨c, hc, hcs, hshare⟩ := hshare
      simp [contactMatch_eq_none_iff.1 hcm c hc hcs] at hshare
    | some c =>
      obtain ⟨hc, hcs, hshare, hfirst⟩ := contactMatch_spec hcm
      refine ⟨c, hc, hcs, hshare, hfirst, resolveCustomer_of_customerMatch ?_⟩
      simp [customerMatch, hcm]
  · -- no contact match, and the link leads to a stored customer
    apply resolveCustomer_of_customerMatch
    simp [customerMatch, contactMatch_eq_none_iff.2 hnone, hx, linkMatch_eq_some hm hc]
  · -- nothing matches
    apply resolveCustomer_of_customerMatch_none
    cases ext with
    | none => simp [customerMatch, contactMatch_eq_none_iff.2 hnone]
    | some x =>
      simp [customerMatch, contactMatch_eq_none_iff.2 hnone, linkMatch_eq_none (hlink x · rfl)]

/-- A contact match wins over a link: an order carrying the external id linked to one customer and
the email of another resolves to the customer with the email. -/
theorem resolveCustomer_contact_over_link :
    let mapped : Customer := ⟨⟨1⟩, ⟨7⟩, some "a@example.com", none, none, none, [], ⟨0, 0⟩, ⟨0, 0⟩⟩
    let byEmail : Customer := ⟨⟨2⟩, ⟨7⟩, some "b@example.com", none, none, none, [], ⟨1, 0⟩, ⟨1, 0⟩⟩
    let link : CustomerLink := ⟨⟨3⟩, ⟨1⟩, ⟨4⟩, .shopify, "c1", .null, ⟨0, 0⟩⟩
    let s : Store := { customers := [mapped, byEmail], customerLinks := [link] }
    (s.resolveCustomer ⟨7⟩ ⟨4⟩ (some "c1") { email := some "b@example.com" } ⟨9⟩ ⟨2, 0⟩).1 = ⟨2⟩ := by
  intro mapped byEmail link s
  obtain ⟨d, hd, -, hshare, -, hr⟩ := (resolveCustomer_cases.1 s ⟨7⟩ ⟨4⟩ (some "c1")
    { email := some "b@example.com" } ⟨9⟩ ⟨2, 0⟩).1
    ⟨byEmail, by simp [s], rfl, by simp [CustomerCandidate.sharesContact, byEmail]⟩
  rw [hr]
  obtain rfl | rfl : d = mapped ∨ d = byEmail := by simpa [s] using hd
  · simp [CustomerCandidate.sharesContact, mapped] at hshare
  · rfl

end SellerSync
