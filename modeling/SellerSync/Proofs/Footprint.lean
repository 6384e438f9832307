import Mathlib
import SellerSync.Proofs.CustomerMatch
import SellerSync.Store.Calls
/-! What an ingestion's store calls touch. -/
namespace SellerSync

namespace Rows

variable {α : Type} {own own' q p : α → Bool} {id : α → Uuid} {F G : Uuid → Prop} {x : α}
  {l : List α}

/-- Rows outside a part keep apart from it: none carries an id that a row of the part carries,
or that the part draws from `F`. -/
def Apart (own : α → Bool) (id : α → Uuid) (F : Uuid → Prop) (l : List α) : Prop :=
  ∀ y∈l, own y=false → ¬ F (id y) ∧ ∀ z∈l, own z=true → id z≠id y

/-- An id a part may write a row under: one it draws, or the id of one of its rows. -/
def Claims (own : α → Bool) (id : α → Uuid) (F : Uuid → Prop) (l : List α) (i : Uuid) : Prop :=
  F i ∨ ∃ e∈l, own e=true ∧ id e=i

theorem Apart.own_of_claims (h : Apart own id F l) {i : Uuid} (hi : Claims own id F l i) {y : α}
    (hy : y∈l) (hyi : id y=i) : own y=true := by
  by_contra hn
  obtain ⟨hF, hz⟩ := h y hy (by simpa using hn)
  rcases hi with hFi | ⟨e, he, hown, rfl⟩
  · exact hF (hyi ▸ hFi)
  · exact hz e he hown hyi.symm

theorem Apart.claims_ne (h : Apart own id F l) {i : Uuid} (hi : Claims own id F l i) {y : α}
    (hy : y∈l) (hn : own y=false) : i≠id y := by
  obtain ⟨hF, hz⟩ := h y hy hn
  rcases hi with hFi | ⟨e, he, hown, rfl⟩
  · exact fun he => hF (he ▸ hFi)
  · exact hz e he hown

theorem filter_put_own (hx : own x=true) (hp : ∀ y∈l, p y=true → own y=true) :
    (put p x l).filter own = put p x (l.filter own) := by
  induction l with
  | nil => simp [put, hx]
  | cons y ys ih =>
    have ih := ih fun z hz => hp z (List.mem_cons_of_mem y hz)
    by_cases hy : p y=true
    · simp [put, hy, hx, hp y List.mem_cons_self hy]
    · by_cases ho : own y=true <;> simp_all [put]

theorem filter_put_of_disjoint (hx : q x=false) (hp : ∀ y∈l, p y=true → q y=false) :
    (put p x l).filter q = l.filter q := by
  induction l with
  | nil => simp [put, hx]
  | cons y ys ih =>
    have ih := ih fun z hz => hp z (List.mem_cons_of_mem y hz)
    by_cases hy : p y=true
    · simp [put, hy, hx, hp y List.mem_cons_self hy]
    · by_cases hq : q y=true <;> simp_all [put]

theorem filter_put_claimed {i : Uuid} (h : Apart own id F l) (hx : own x=true)
    (hc : Claims own id F l i) :
    (put (fun y => id y == i) x l).filter own = put (fun y => id y == i) x (l.filter own) :=
  filter_put_own hx fun y hy hp => h.own_of_claims hc hy (by simpa using hp)

theorem filter_put_claimed_outside {i : Uuid} (h : Apart own id F l) (hx : own x=true)
    (hc : Claims own id F l i) :
    (put (fun y => id y == i) x l).filter (fun y => !own y) = l.filter (fun y => !own y) :=
  filter_put_of_disjoint (by simp [hx]) fun y hy hp => by
    simp [h.own_of_claims hc hy (by simpa using hp)]

/-- Every row of the part in `l'` is under an id the part claims in `l`. -/
def Claimed (own : α → Bool) (id : α → Uuid) (F : Uuid → Prop) (l l' : List α) : Prop :=
  ∀ y∈l', own y=true → Claims own id F l (id y)

theorem claimed_self : Claimed own id F l l := fun y hy ho => .inr ⟨y, hy, ho, rfl⟩

theorem claimed_put {i : Uuid} (hx : Claims own id F l i) (hi : id x=i) :
    Claimed own id F l (Rows.put p x l) := by
  intro y hy ho
  rcases mem_of_mem_put hy with rfl | hy
  · exact hi ▸ hx
  · exact .inr ⟨y, hy, ho, rfl⟩

theorem claimed_append (hF : F (id x)) : Claimed own id F l (l++[x]) := by
  intro y hy ho
  rcases List.mem_append.1 hy with hy | hy
  · exact .inr ⟨y, hy, ho, rfl⟩
  · rw [List.mem_singleton.1 hy]
    exact .inl hF

theorem claimed_map {f : α → α} (hown : ∀ y, own (f y)=own y) (hid : ∀ y, id (f y)=id y) :
    Claimed own id F l (l.map f) := by
  intro y hy ho
  obtain ⟨y, hyl, rfl⟩ := List.mem_map.1 hy
  rw [hown] at ho
  exact .inr ⟨y, hyl, ho, (hid y).symm⟩

theorem Apart.of_outside {l' : List α} (h : Apart own id F l)
    (hout : l'.filter (fun y => !own y)=l.filter (fun y => !own y)) (hc : Claimed own id F l l') :
    Apart own id F l' := by
  intro y hy hn
  have hyl : y∈l.filter (fun y => !own y) := hout ▸ List.mem_filter.2 ⟨hy, by simp [hn]⟩
  obtain ⟨hyl, -⟩ := List.mem_filter.1 hyl
  exact ⟨(h y hyl hn).1, fun z hz hoz => h.claims_ne (hc z hz hoz) hyl hn⟩

theorem Apart.of_other {l' : List α} (hh : Apart own' id G l) (hg : Apart own id F l)
    (hdis : ∀ y, own y=true → own' y=false) (hFG : ∀ i, F i → ¬ G i)
    (hout : l'.filter (fun y => !own y)=l.filter (fun y => !own y))
    (hc : Claimed own id F l l') : Apart own' id G l' := by
  have hold : ∀ z∈l', own' z=true → z∈l ∧ own z=false := by
    intro z hz hoz
    have hoz' : own z=false := by
      cases hz' : own z
      · rfl
      · rw [hdis z hz'] at hoz; contradiction
    have := hout ▸ List.mem_filter.2 ⟨hz, by simp [hoz']⟩
    exact ⟨(List.mem_filter.1 this).1, hoz'⟩
  intro y hy hn
  cases ho : own y
  · have hyl : y∈l := (List.mem_filter.1 (hout ▸ List.mem_filter.2 ⟨hy, by simp [ho]⟩)).1
    refine ⟨(hh y hyl hn).1, fun z hz hoz => (hh y hyl hn).2 z (hold z hz hoz).1 hoz⟩
  · have hcy := hc y hy ho
    refine ⟨?_, fun z hz hoz => ?_⟩
    · rcases hcy with hF | ⟨e, he, hoe, hey⟩
      · exact hFG _ hF
      · exact hey ▸ (hh e he (hdis e hoe)).1
    · obtain ⟨hzl, hoz'⟩ := hold z hz hoz
      exact (hg.claims_ne hcy hzl hoz').symm

theorem filter_map_of_owner {f : α → α} (hown : ∀ y, own (f y)=own y) :
    (l.map f).filter own = (l.filter own).map f := by
  rw [List.filter_map]
  congr 1
  exact List.filter_congr fun y _ => hown y

theorem filter_map_outside {f : α → α} (h : Apart own id F l) {i : Uuid}
    (hi : ∃ e∈l, own e=true ∧ id e=i) (hown : ∀ y, own (f y)=own y) (hf : ∀ y, id y≠i → f y=y) :
    (l.map f).filter (fun y => !own y) = l.filter (fun y => !own y) := by
  have hfix : ∀ y∈l, own y=false → f y=y := fun y hy hn =>
    hf y (h.claims_ne (.inr hi) hy hn).symm
  rw [List.filter_map]
  have hsame : l.filter ((fun y => !own y) ∘ f) = l.filter (fun y => !own y) :=
    List.filter_congr fun y _ => by simp [hown]
  rw [hsame]
  conv_rhs => rw [← List.map_id (l.filter _)]
  refine List.map_congr_left fun y hy => ?_
  obtain ⟨hyl, hn⟩ := List.mem_filter.1 hy
  exact hfix y hyl (by simpa using hn)

theorem find?_filter_of (h : ∀ y∈l, q y=true → own y=true) :
    (l.filter own).find? q = l.find? q := by
  induction l with
  | nil => rfl
  | cons y ys ih =>
    have ih := ih fun z hz => h z (List.mem_cons_of_mem y hz)
    by_cases hq : q y=true
    · simp [hq, h y List.mem_cons_self hq]
    · by_cases ho : own y=true <;> simp_all

theorem filter_filter_of (h : ∀ y∈l, q y=true → own y=true) :
    (l.filter own).filter q = l.filter q := by
  rw [List.filter_filter]
  refine List.filter_congr fun y hy => ?_
  cases hq : q y
  · simp
  · simp [h y hy hq]

theorem Apart.congr (h : Apart own id F l) (he : ∀ y∈l, own y=own' y) : Apart own' id F l := by
  intro y hy hn
  rw [← he y hy] at hn
  refine ⟨(h y hy hn).1, fun z hz hoz => ?_⟩
  rw [← he z hz] at hoz
  exact (h y hy hn).2 z hz hoz

variable (id F) in
theorem claims_of_find? (hq : ∀ y, q y=true → own y=true) {e : α} (he : l.find? q=some e) :
    own e=true ∧ Claims own id F l (id e) :=
  have ho := hq e (List.find?_some he)
  ⟨ho, .inr ⟨e, List.mem_of_find?_eq_some he, ho, rfl⟩⟩

theorem kept_put {owner : α → Uuid} {u i : Uuid} (h : Apart (fun y => owner y == u) id F l)
    (hc : Claims (fun y => owner y == u) id F l i) (hxi : id x=i) (hxo : owner x=u) :
    ∀ y∈l, ∃ y'∈put (fun z => id z == i) x l, id y'=id y ∧ owner y'=owner y := by
  intro y hy
  rcases mem_put_of_mem (p := fun z => id z == i) (x := x) hy with hy' | hp
  · exact ⟨y, hy', rfl, rfl⟩
  · have hi : id y=i := by simpa using hp
    have ho : owner y=u := by simpa using h.own_of_claims hc hy hi
    exact ⟨x, mem_put _ _ _, hxi.trans hi.symm, hxo.trans ho.symm⟩

end Rows

namespace Store

/-- The account owns the line: it belongs to one of the account's orders. -/
def ownsLine (g : ChannelAccount) (orders : List StoredOrder) (l : StoredLine) : Bool :=
  orders.any fun o => o.accountId == g.id && o.id == l.orderId

/-- The account's part of the store: its seller's items, customers and audit lines, its own
links, orders and stock levels, and the lines of its orders. Tables no ingestion writes are
kept whole. -/
def part (g : ChannelAccount) (s : Store) : Store :=
  { s with
    items := s.items.filter (·.sellerId == g.sellerId)
    customers := s.customers.filter (·.sellerId == g.sellerId)
    itemLinks := s.itemLinks.filter (·.accountId == g.id)
    customerLinks := s.customerLinks.filter (·.accountId == g.id)
    orders := s.orders.filter (·.accountId == g.id)
    lines := s.lines.filter (ownsLine g s.orders)
    stock := s.stock.filter (·.accountId == g.id)
    audit := s.audit.filter (·.sellerId == g.sellerId) }

/-- The store less the account's part. -/
def outside (g : ChannelAccount) (s : Store) : Store :=
  { s with
    items := s.items.filter fun i => !(i.sellerId == g.sellerId)
    customers := s.customers.filter fun c => !(c.sellerId == g.sellerId)
    itemLinks := s.itemLinks.filter fun m => !(m.accountId == g.id)
    customerLinks := s.customerLinks.filter fun m => !(m.accountId == g.id)
    orders := s.orders.filter fun o => !(o.accountId == g.id)
    lines := s.lines.filter fun l => !ownsLine g s.orders l
    stock := s.stock.filter fun x => !(x.accountId == g.id)
    audit := s.audit.filter fun x => !(x.sellerId == g.sellerId) }

/-- The rows outside the account's part keep apart from it, with ids other than those of its
rows and those it draws from `F`; its customer links lead to its seller's customers, and every
line belongs to an order. -/
structure Apart (g : ChannelAccount) (F : Uuid → Prop) (s : Store) : Prop where
  items : Rows.Apart (·.sellerId == g.sellerId) (·.id) F s.items
  customers : Rows.Apart (·.sellerId == g.sellerId) (·.id) F s.customers
  itemLinks : Rows.Apart (·.accountId == g.id) (·.id) F s.itemLinks
  customerLinks : Rows.Apart (·.accountId == g.id) (·.id) F s.customerLinks
  orders : Rows.Apart (·.accountId == g.id) (·.id) F s.orders
  lines : Rows.Apart (ownsLine g s.orders) (·.id) F s.lines
  stock : Rows.Apart (·.accountId == g.id) (·.id) F s.stock
  audit : Rows.Apart (·.sellerId == g.sellerId) (·.id) F s.audit
  customerTargets : ∀ m∈s.customerLinks, m.accountId=g.id →
    ∃ c∈s.customers, c.sellerId=g.sellerId ∧ c.id=m.customerId
  lineOrders : ∀ l∈s.lines, ∃ o∈s.orders, o.id=l.orderId

/-- Two accounts of different sellers, drawing different ids. -/
structure Separate (g h : ChannelAccount) (F G : Uuid → Prop) : Prop where
  sellers : g.sellerId≠h.sellerId
  accounts : g.id≠h.id
  draws : ∀ i, F i → ¬ G i

variable {g h : ChannelAccount} {F G : Uuid → Prop} {s : Store}

theorem Separate.symm (hs : Separate g h F G) : Separate h g G F :=
  ⟨hs.sellers.symm, hs.accounts.symm, fun i hG hF => hs.draws i hF hG⟩

theorem Separate.seller (hs : Separate g h F G) {u : Uuid} (hu : (u == g.sellerId)=true) :
    (u == h.sellerId)=false := by
  simp only [beq_iff_eq] at hu
  simp [hu, hs.sellers]

theorem Separate.account (hs : Separate g h F G) {u : Uuid} (hu : (u == g.id)=true) :
    (u == h.id)=false := by
  simp only [beq_iff_eq] at hu
  simp [hu, hs.accounts]

/-! ### One call at a time

For each store function an ingestion calls: made on the account's part it answers as on the
whole store and leaves the part the whole store is left with (`_part`); it leaves the rest of
the store as it was (`_outside`). -/

section Customers

variable {ext : Option String} {cand : CustomerCandidate} {fresh : Uuid} {now : Instant}

theorem contactMatch_part : (part g s).contactMatch g.sellerId cand=s.contactMatch g.sellerId cand :=
  congrArg (Rows.earliest _) (Rows.filter_filter_of (by intro y _ h; simp_all))

theorem linkMatch_part (hg : s.Apart g F) (e : String) :
    (part g s).linkMatch g.id e=s.linkMatch g.id e := by
  have hfind : (part g s).customerLinks.find? (fun m => m.accountId == g.id && m.externalId == e) =
      s.customerLinks.find? (fun m => m.accountId == g.id && m.externalId == e) :=
    Rows.find?_filter_of (by intro y _ h; simp_all)
  simp only [linkMatch, hfind]
  cases hm : s.customerLinks.find? (fun m => m.accountId == g.id && m.externalId == e) with
  | none => rfl
  | some m =>
    have hma : m.accountId=g.id := by have := List.find?_some hm; simp_all
    obtain ⟨c, hc, hcs, hci⟩ := hg.customerTargets m (List.mem_of_find?_eq_some hm) hma
    have h1 : (part g s).customers.any (·.id == m.customerId)=true :=
      List.any_eq_true.2 ⟨c, List.mem_filter.2 ⟨hc, by simp [hcs]⟩, by simp [hci]⟩
    have h2 : s.customers.any (·.id == m.customerId)=true :=
      List.any_eq_true.2 ⟨c, hc, by simp [hci]⟩
    simp only [Option.bind_some, h1, h2]

theorem customerMatch_part (hg : s.Apart g F) :
    (part g s).customerMatch g.sellerId g.id ext cand=s.customerMatch g.sellerId g.id ext cand := by
  simp only [customerMatch, contactMatch_part, linkMatch_part hg]

theorem customerMatch_owned (hg : s.Apart g F) {id : Uuid}
    (hm : s.customerMatch g.sellerId g.id ext cand=some id) :
    ∃ c∈s.customers, c.sellerId=g.sellerId ∧ c.id=id := by
  simp only [customerMatch] at hm
  cases hc : s.contactMatch g.sellerId cand with
  | some c =>
    simp only [hc, Option.map_some, Option.some_or, Option.some.injEq] at hm
    have hmem := List.mem_filter.1 (Rows.mem_of_earliest hc)
    simp only [Bool.and_eq_true, beq_iff_eq] at hmem
    exact ⟨c, hmem.1, hmem.2.1, hm⟩
  | none =>
    simp only [hc, Option.map_none, Option.none_or, Option.bind_eq_some_iff] at hm
    obtain ⟨e, -, hl⟩ := hm
    simp only [linkMatch, Option.bind_eq_some_iff] at hl
    obtain ⟨m, hfind, hif⟩ := hl
    have hid : m.customerId=id := by
      split at hif
      · exact Option.some.inj hif
      · contradiction
    have hma : m.accountId=g.id := by
      have hp := List.find?_some hfind
      simp only [Bool.and_eq_true, beq_iff_eq] at hp
      exact hp.1
    obtain ⟨c, hc, hcs, hci⟩ := hg.customerTargets m (List.mem_of_find?_eq_some hfind) hma
    exact ⟨c, hc, hcs, hci.trans hid⟩

theorem resolveCustomer_part (hg : s.Apart g F) :
    (part g s).resolveCustomer g.sellerId g.id ext cand fresh now =
      ((s.resolveCustomer g.sellerId g.id ext cand fresh now).1,
        part g (s.resolveCustomer g.sellerId g.id ext cand fresh now).2) := by
  have hm : (part g s).customerMatch g.sellerId g.id ext cand =
      s.customerMatch g.sellerId g.id ext cand := customerMatch_part hg
  simp only [customerMatch, contactMatch, linkMatch] at hm
  simp only [resolveCustomer, hm]
  split
  · simp only [part]
    rw [Rows.filter_map_of_owner]
    intro c
    split <;> (try split) <;> rfl
  · simp [part]

theorem resolveCustomer_outside (hg : s.Apart g F) :
    outside g (s.resolveCustomer g.sellerId g.id ext cand fresh now).2=outside g s := by
  cases hm : s.customerMatch g.sellerId g.id ext cand with
  | none =>
    obtain ⟨c, -, hcs, -, -, hr⟩ := resolveCustomer_of_none fresh now hm
    rw [hr]
    simp [outside, hcs]
  | some id =>
    obtain ⟨c, hc, hcs, hci⟩ := customerMatch_owned hg hm
    simp only [customerMatch, contactMatch, linkMatch] at hm
    simp only [resolveCustomer, hm, outside]
    rw [Rows.filter_map_outside hg.customers ⟨c, hc, by simp [hcs], hci⟩]
    · intro y
      split <;> (try split) <;> rfl
    · intro y hy
      split <;> (try split) <;> simp_all

variable {a : ChannelAccount} {customer : Uuid} {e : String} {raw : Json}

theorem upsertCustomerLink_part (hg : s.Apart g F) (ha : a.id=g.id) (hF : F fresh) :
    (part g s).upsertCustomerLink a customer e raw fresh now =
      ((s.upsertCustomerLink a customer e raw fresh now).1,
        part g (s.upsertCustomerLink a customer e raw fresh now).2) := by
  have hq : ∀ m : CustomerLink, (m.accountId == a.id && m.externalId == e)=true →
      (m.accountId == g.id)=true := by intro m h; simp_all
  have hfind : (part g s).customerLinks.find? (fun m => m.accountId == a.id && m.externalId == e) =
      s.customerLinks.find? (fun m => m.accountId == a.id && m.externalId == e) :=
    Rows.find?_filter_of fun y _ => hq y
  simp only [upsertCustomerLink, hfind]
  split
  · rename_i x hx
    simp only [part]
    rw [Rows.filter_put_claimed hg.customerLinks]
    · simp [ha]
    · exact (Rows.claims_of_find? _ _ hq hx).2
  · simp only [part]
    rw [Rows.filter_put_claimed hg.customerLinks]
    · simp [ha]
    · exact .inl hF

theorem upsertCustomerLink_outside (hg : s.Apart g F) (ha : a.id=g.id) (hF : F fresh) :
    outside g (s.upsertCustomerLink a customer e raw fresh now).2=outside g s := by
  have hq : ∀ m : CustomerLink, (m.accountId == a.id && m.externalId == e)=true →
      (m.accountId == g.id)=true := by intro m h; simp_all
  simp only [upsertCustomerLink]
  split
  · rename_i x hx
    simp only [outside]
    rw [Rows.filter_put_claimed_outside hg.customerLinks]
    · simp [ha]
    · exact (Rows.claims_of_find? _ _ hq hx).2
  · simp only [outside]
    rw [Rows.filter_put_claimed_outside hg.customerLinks]
    · simp [ha]
    · exact .inl hF

end Customers

section Catalog

variable {fresh id : Uuid} {sku title e : String} {now : Instant}

theorem upsertItem_part (hg : s.Apart g F) :
    (part g s).upsertItem g.sellerId sku title fresh now =
      ((s.upsertItem g.sellerId sku title fresh now).1,
        part g (s.upsertItem g.sellerId sku title fresh now).2) := by
  have hq : ∀ i : CatalogItem, (i.sellerId == g.sellerId && i.sku == sku)=true →
      (i.sellerId == g.sellerId)=true := by intro i h; simp_all
  have hfind : (part g s).items.find? (fun i => i.sellerId == g.sellerId && i.sku == sku) =
      s.items.find? (fun i => i.sellerId == g.sellerId && i.sku == sku) :=
    Rows.find?_filter_of fun y _ => hq y
  simp only [upsertItem, hfind]
  split
  · rename_i x hx
    obtain ⟨hown, hc⟩ := Rows.claims_of_find? (·.id) F hq hx
    simp only [part]
    rw [Rows.filter_put_claimed hg.items]
    · simpa using hown
    · exact hc
  · simp [part]

theorem upsertItem_outside (hg : s.Apart g F) :
    outside g (s.upsertItem g.sellerId sku title fresh now).2=outside g s := by
  have hq : ∀ i : CatalogItem, (i.sellerId == g.sellerId && i.sku == sku)=true →
      (i.sellerId == g.sellerId)=true := by intro i h; simp_all
  simp only [upsertItem]
  split
  · rename_i x hx
    obtain ⟨hown, hc⟩ := Rows.claims_of_find? (·.id) F hq hx
    simp only [outside]
    rw [Rows.filter_put_claimed_outside hg.items]
    · simpa using hown
    · exact hc
  · simp [outside]

variable {a : ChannelAccount} {link : NewItemLink}

theorem upsertItemLink_part (hg : s.Apart g F) (ha : a.id=g.id) (hF : F fresh) :
    (part g s).upsertItemLink a link fresh now =
      ((s.upsertItemLink a link fresh now).1, part g (s.upsertItemLink a link fresh now).2) := by
  have hq : ∀ m : ItemLink, (m.accountId == a.id && m.externalItemId == link.externalItemId &&
      m.externalVariantId == link.externalVariantId)=true → (m.accountId == g.id)=true := by
    intro m h; simp_all
  have hfind : (part g s).itemLinks.find? (fun m => m.accountId == a.id &&
        m.externalItemId == link.externalItemId && m.externalVariantId == link.externalVariantId) =
      s.itemLinks.find? (fun m => m.accountId == a.id &&
        m.externalItemId == link.externalItemId && m.externalVariantId == link.externalVariantId) :=
    Rows.find?_filter_of fun y _ => hq y
  simp only [upsertItemLink, hfind]
  split
  · rename_i x hx
    simp only [part]
    rw [Rows.filter_put_claimed hg.itemLinks]
    · simp [ha]
    · exact (Rows.claims_of_find? _ _ hq hx).2
  · simp only [part]
    rw [Rows.filter_put_claimed hg.itemLinks]
    · simp [ha]
    · exact .inl hF

theorem upsertItemLink_outside (hg : s.Apart g F) (ha : a.id=g.id) (hF : F fresh) :
    outside g (s.upsertItemLink a link fresh now).2=outside g s := by
  have hq : ∀ m : ItemLink, (m.accountId == a.id && m.externalItemId == link.externalItemId &&
      m.externalVariantId == link.externalVariantId)=true → (m.accountId == g.id)=true := by
    intro m h; simp_all
  simp only [upsertItemLink]
  split
  · rename_i x hx
    simp only [outside]
    rw [Rows.filter_put_claimed_outside hg.itemLinks]
    · simp [ha]
    · exact (Rows.claims_of_find? _ _ hq hx).2
  · simp only [outside]
    rw [Rows.filter_put_claimed_outside hg.itemLinks]
    · simp [ha]
    · exact .inl hF

theorem findItemLink_part : (part g s).findItemLink g.id e=s.findItemLink g.id e := by
  have hown : (part g s).itemLinks.filter (·.accountId == g.id) =
      s.itemLinks.filter (·.accountId == g.id) :=
    Rows.filter_filter_of fun _ _ h => h
  simp only [findItemLink, hown]

theorem touchItemLink_part : part g (s.touchItemLink id now)=(part g s).touchItemLink id now := by
  simp only [touchItemLink, part]
  rw [Rows.filter_map_of_owner]
  intro m
  split <;> rfl

theorem touchItemLink_outside (hg : s.Apart g F)
    (hk : ∃ m∈s.itemLinks, m.accountId=g.id ∧ m.id=id) :
    outside g (s.touchItemLink id now)=outside g s := by
  obtain ⟨m, hm, hma, hmi⟩ := hk
  simp only [touchItemLink, outside]
  rw [Rows.filter_map_outside hg.itemLinks ⟨m, hm, by simp [hma], hmi⟩]
  · intro y
    split <;> rfl
  · intro y hy
    simp [hy]

end Catalog

/-! ### Orders and what hangs off them -/

theorem ownsLine_iff {os : List StoredOrder} {l : StoredLine} :
    ownsLine g os l=true ↔ ∃ o∈os, o.accountId=g.id ∧ o.id=l.orderId := by
  simp [ownsLine]

theorem ownsLine_congr {os os' : List StoredOrder}
    (h : os.filter (·.accountId == g.id)=os'.filter (·.accountId == g.id)) :
    ownsLine g os=ownsLine g os' := by
  have hmem : ∀ o, o∈os ∧ o.accountId=g.id ↔ o∈os' ∧ o.accountId=g.id := fun o => by
    have := congrArg (o ∈ ·) h
    simpa using this
  funext l
  apply Bool.eq_iff_iff.2
  simp only [ownsLine_iff]
  constructor <;> rintro ⟨o, ho, hoa, hoi⟩
  · exact ⟨o, ((hmem o).1 ⟨ho, hoa⟩).1, hoa, hoi⟩
  · exact ⟨o, ((hmem o).2 ⟨ho, hoa⟩).1, hoa, hoi⟩

theorem ownsLine_disjoint {os : List StoredOrder}
    (hg : Rows.Apart (·.accountId == g.id) (·.id) F os) (hs : g.id≠h.id) {l : StoredLine}
    (hl : ownsLine g os l=true) : ownsLine h os l=false := by
  obtain ⟨o, ho, hog, hoi⟩ := ownsLine_iff.1 hl
  cases hh : ownsLine h os l
  · rfl
  · obtain ⟨o', ho', hoh, ho'i⟩ := ownsLine_iff.1 hh
    have hn : (o'.accountId == g.id)=false := by simp [hoh, Ne.symm hs]
    exact absurd (hoi.trans ho'i.symm) ((hg o' ho' hn).2 o ho (by simp [hog]))

theorem ownsLine_put_order (hg : s.Apart g F) {x : StoredOrder} {i : Uuid} (hx : x.accountId=g.id)
    (hc : Rows.Claims (·.accountId == g.id) (·.id) F s.orders i) (hi : x.id=i) (k : ChannelAccount)
    {l : StoredLine} (hl : l∈s.lines) :
    ownsLine k (Rows.put (·.id == i) x s.orders) l=ownsLine k s.orders l := by
  subst hi
  have hrep : ∀ o∈s.orders, (o.id == x.id)=true → o.accountId=g.id := fun o ho hp => by
    simpa using hg.orders.own_of_claims hc ho (by simpa using hp)
  apply Bool.eq_iff_iff.2
  simp only [ownsLine_iff]
  constructor
  · rintro ⟨o, ho, hok, hoi⟩
    rcases Rows.mem_of_mem_put ho with rfl | ho
    · -- the line was stored under the order the write replaced
      obtain ⟨o', ho', ho'i⟩ := hg.lineOrders l hl
      have ho'g := hrep o' ho' (by simp [ho'i, hoi])
      exact ⟨o', ho', ho'g.trans (hx.symm.trans hok), ho'i⟩
    · exact ⟨o, ho, hok, hoi⟩
  · rintro ⟨o, ho, hok, hoi⟩
    rcases Rows.mem_put_of_mem (p := (·.id == x.id)) (x := x) ho with ho' | hp
    · exact ⟨o, ho', hok, hoi⟩
    · have hox : o.id=x.id := by simpa using hp
      exact ⟨x, Rows.mem_put _ _ _, hx.trans ((hrep o ho hp).symm.trans hok), hox.symm.trans hoi⟩

section Orders

variable {o : StoredOrder}

theorem upsertOrder_part (hg : s.Apart g F) (ho : o.accountId=g.id) (hF : F o.id) :
    (part g s).upsertOrder o=((s.upsertOrder o).1, part g (s.upsertOrder o).2) := by
  have hq : ∀ e : StoredOrder, (e.accountId == o.accountId &&
      e.externalOrderId == o.externalOrderId)=true → (e.accountId == g.id)=true := by
    intro e h; simp_all
  have hfind : (part g s).orders.find? (fun e => e.accountId == o.accountId &&
        e.externalOrderId == o.externalOrderId) =
      s.orders.find? (fun e => e.accountId == o.accountId &&
        e.externalOrderId == o.externalOrderId) :=
    Rows.find?_filter_of fun y _ => hq y
  simp only [upsertOrder, hfind]
  split
  · rename_i x hx
    have hc := (Rows.claims_of_find? (·.id) F hq hx).2
    let w : StoredOrder := { o with id := x.id }
    refine Prod.ext rfl ?_
    simp only [part]
    congr 1
    · exact (Rows.filter_put_claimed hg.orders (x := w) (by simp [w, ho]) hc).symm
    · exact List.filter_congr fun l hl => (ownsLine_put_order hg (x := w) ho hc rfl g hl).symm
  · refine Prod.ext rfl ?_
    simp only [part]
    congr 1
    · exact (Rows.filter_put_claimed hg.orders (x := o) (by simp [ho]) (.inl hF)).symm
    · exact List.filter_congr fun l hl => (ownsLine_put_order hg ho (.inl hF) rfl g hl).symm

theorem upsertOrder_outside (hg : s.Apart g F) (ho : o.accountId=g.id) (hF : F o.id) :
    outside g (s.upsertOrder o).2=outside g s := by
  have hq : ∀ e : StoredOrder, (e.accountId == o.accountId &&
      e.externalOrderId == o.externalOrderId)=true → (e.accountId == g.id)=true := by
    intro e h; simp_all
  simp only [upsertOrder]
  split
  · rename_i x hx
    have hc := (Rows.claims_of_find? (·.id) F hq hx).2
    let w : StoredOrder := { o with id := x.id }
    simp only [outside]
    congr 1
    · exact Rows.filter_put_claimed_outside hg.orders (x := w) (by simp [w, ho]) hc
    · exact List.filter_congr fun l hl => by rw [ownsLine_put_order hg (x := w) ho hc rfl g hl]
  · simp only [outside]
    congr 1
    · exact Rows.filter_put_claimed_outside hg.orders (x := o) (by simp [ho]) (.inl hF)
    · exact List.filter_congr fun l hl => by rw [ownsLine_put_order hg ho (.inl hF) rfl g hl]

variable {l : StoredLine}

theorem upsertLine_part (hg : s.Apart g F)
    (hk : ∃ o∈s.orders, o.accountId=g.id ∧ o.id=l.orderId) :
    (part g s).upsertLine l=((s.upsertLine l).1, part g (s.upsertLine l).2) := by
  have hq : ∀ e : StoredLine, e.orderId=l.orderId → ownsLine g s.orders e=true := fun e he =>
    ownsLine_iff.2 (he ▸ hk)
  have hfind : ∀ ext, (part g s).lines.find? (fun e => e.orderId == l.orderId &&
        e.externalLineId == some ext) =
      s.lines.find? (fun e => e.orderId == l.orderId && e.externalLineId == some ext) := fun ext =>
    Rows.find?_filter_of fun y _ h => hq y (by simp_all)
  simp only [upsertLine, hfind]
  split
  · rename_i x hx
    obtain ⟨ext, -, hx⟩ := Option.bind_eq_some_iff.1 hx
    have hxo : x.orderId=l.orderId := by have := List.find?_some hx; simp_all
    simp only [part]
    rw [Rows.filter_put_claimed hg.lines]
    · exact hq _ rfl
    · exact .inr ⟨x, List.mem_of_find?_eq_some hx, hq x hxo, rfl⟩
  · simp [part, hq l rfl]

theorem upsertLine_outside (hg : s.Apart g F)
    (hk : ∃ o∈s.orders, o.accountId=g.id ∧ o.id=l.orderId) :
    outside g (s.upsertLine l).2=outside g s := by
  have hq : ∀ e : StoredLine, e.orderId=l.orderId → ownsLine g s.orders e=true := fun e he =>
    ownsLine_iff.2 (he ▸ hk)
  simp only [upsertLine]
  split
  · rename_i x hx
    obtain ⟨ext, -, hx⟩ := Option.bind_eq_some_iff.1 hx
    have hxo : x.orderId=l.orderId := by have := List.find?_some hx; simp_all
    simp only [outside]
    rw [Rows.filter_put_claimed_outside hg.lines]
    · exact hq _ rfl
    · exact .inr ⟨x, List.mem_of_find?_eq_some hx, hq x hxo, rfl⟩
  · simp [outside, hq l rfl]

variable {x : AuditLine}

theorem upsertAudit_part (hg : s.Apart g F) (hx : x.sellerId=g.sellerId) (hF : F x.id) :
    (part g s).upsertAudit x=((s.upsertAudit x).1, part g (s.upsertAudit x).2) := by
  have hq : ∀ e : AuditLine, (e.sellerId == x.sellerId && e.orderExternalId == x.orderExternalId &&
      e.sku == x.sku)=true → (e.sellerId == g.sellerId)=true := by
    intro e h; simp_all
  have hfind : (part g s).audit.find? (fun e => e.sellerId == x.sellerId &&
        e.orderExternalId == x.orderExternalId && e.sku == x.sku) =
      s.audit.find? (fun e => e.sellerId == x.sellerId &&
        e.orderExternalId == x.orderExternalId && e.sku == x.sku) :=
    Rows.find?_filter_of fun y _ => hq y
  simp only [upsertAudit, hfind]
  split
  · rename_i e he
    simp only [part]
    rw [Rows.filter_put_claimed hg.audit]
    · simp [hx]
    · exact (Rows.claims_of_find? _ _ hq he).2
  · simp only [part]
    rw [Rows.filter_put_claimed hg.audit]
    · simp [hx]
    · exact .inl hF

theorem upsertAudit_outside (hg : s.Apart g F) (hx : x.sellerId=g.sellerId) (hF : F x.id) :
    outside g (s.upsertAudit x).2=outside g s := by
  have hq : ∀ e : AuditLine, (e.sellerId == x.sellerId && e.orderExternalId == x.orderExternalId &&
      e.sku == x.sku)=true → (e.sellerId == g.sellerId)=true := by
    intro e h; simp_all
  simp only [upsertAudit]
  split
  · rename_i e he
    simp only [outside]
    rw [Rows.filter_put_claimed_outside hg.audit]
    · simp [hx]
    · exact (Rows.claims_of_find? _ _ hq he).2
  · simp only [outside]
    rw [Rows.filter_put_claimed_outside hg.audit]
    · simp [hx]
    · exact .inl hF

variable {item fresh : Uuid} {location : Option String} {available : Int} {now : Instant}

theorem upsertStock_part (hg : s.Apart g F) (hF : F fresh) :
    (part g s).upsertStock item g.id location available fresh now =
      ((s.upsertStock item g.id location available fresh now).1,
        part g (s.upsertStock item g.id location available fresh now).2) := by
  have hq : ∀ e : StockLevel, (e.itemId == item && e.accountId == g.id &&
      e.locationId == location)=true → (e.accountId == g.id)=true := by
    intro e h; simp_all
  have hfind : (part g s).stock.find? (fun e => e.itemId == item && e.accountId == g.id &&
        e.locationId == location) =
      s.stock.find? (fun e => e.itemId == item && e.accountId == g.id &&
        e.locationId == location) :=
    Rows.find?_filter_of fun y _ => hq y
  simp only [upsertStock, hfind]
  split
  · rename_i e he
    simp only [part]
    rw [Rows.filter_put_claimed hg.stock]
    · simp
    · exact (Rows.claims_of_find? _ _ hq he).2
  · simp only [part]
    rw [Rows.filter_put_claimed hg.stock]
    · simp
    · exact .inl hF

theorem upsertStock_outside (hg : s.Apart g F) (hF : F fresh) :
    outside g (s.upsertStock item g.id location available fresh now).2=outside g s := by
  have hq : ∀ e : StockLevel, (e.itemId == item && e.accountId == g.id &&
      e.locationId == location)=true → (e.accountId == g.id)=true := by
    intro e h; simp_all
  simp only [upsertStock]
  split
  · rename_i e he
    simp only [outside]
    rw [Rows.filter_put_claimed_outside hg.stock]
    · simp
    · exact (Rows.claims_of_find? _ _ hq he).2
  · simp only [outside]
    rw [Rows.filter_put_claimed_outside hg.stock]
    · simp
    · exact .inl hF

end Orders

end Store

end SellerSync
