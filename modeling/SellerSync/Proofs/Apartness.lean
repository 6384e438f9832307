import Mathlib
import SellerSync.Proofs.Footprint
/-! What one account's store call leaves of another account's part. -/
namespace SellerSync.Store

/-- What a call of the account does to the store, as the other parts see it: it leaves the rest
of the store and writes the part's rows only under ids the part claims; it keeps which stored
lines each account owns and every line's order, and every customer, order and listing link under
its id with its owner; a customer link it adds is the account's and leads to a customer of its
seller. -/
structure Step (g : ChannelAccount) (F : Uuid → Prop) (s s' : Store) : Prop where
  outside : outside g s'=outside g s
  items : Rows.Claimed (·.sellerId == g.sellerId) (·.id) F s.items s'.items
  customers : Rows.Claimed (·.sellerId == g.sellerId) (·.id) F s.customers s'.customers
  itemLinks : Rows.Claimed (·.accountId == g.id) (·.id) F s.itemLinks s'.itemLinks
  customerLinks : Rows.Claimed (·.accountId == g.id) (·.id) F s.customerLinks s'.customerLinks
  orders : Rows.Claimed (·.accountId == g.id) (·.id) F s.orders s'.orders
  lines : Rows.Claimed (ownsLine g s.orders) (·.id) F s.lines s'.lines
  stock : Rows.Claimed (·.accountId == g.id) (·.id) F s.stock s'.stock
  audit : Rows.Claimed (·.sellerId == g.sellerId) (·.id) F s.audit s'.audit
  owners : ∀ k : ChannelAccount, ∀ l∈s'.lines, ownsLine k s'.orders l=ownsLine k s.orders l
  lineOrders : (∀ l∈s.lines, ∃ o∈s.orders, o.id=l.orderId) →
    ∀ l∈s'.lines, ∃ o∈s'.orders, o.id=l.orderId
  customersKept : ∀ c∈s.customers, ∃ c'∈s'.customers, c'.id=c.id ∧ c'.sellerId=c.sellerId
  ordersKept : ∀ o∈s.orders, ∃ o'∈s'.orders, o'.id=o.id ∧ o'.accountId=o.accountId
  itemLinksKept : ∀ m∈s.itemLinks, ∃ m'∈s'.itemLinks, m'.id=m.id ∧ m'.accountId=m.accountId
  linksAdded : ∀ m∈s'.customerLinks, m∈s.customerLinks ∨
    m.accountId=g.id ∧ ∃ c∈s'.customers, c.sellerId=g.sellerId ∧ c.id=m.customerId

variable {g h : ChannelAccount} {F G : Uuid → Prop} {s s' : Store}

theorem Step.refl : Step g F s s where
  outside := rfl
  items := Rows.claimed_self
  customers := Rows.claimed_self
  itemLinks := Rows.claimed_self
  customerLinks := Rows.claimed_self
  orders := Rows.claimed_self
  lines := Rows.claimed_self
  stock := Rows.claimed_self
  audit := Rows.claimed_self
  owners _ _ _ := rfl
  lineOrders := id
  customersKept c hc := ⟨c, hc, rfl, rfl⟩
  ordersKept o ho := ⟨o, ho, rfl, rfl⟩
  itemLinksKept m hm := ⟨m, hm, rfl, rfl⟩
  linksAdded _ hm := .inl hm

/-! A write of one table is a step when it leaves the rest and claims its ids, and keeps the
references into the table. -/

theorem Step.ofItems {X : List CatalogItem}
    (hout : Store.outside g { s with items := X }=Store.outside g s)
    (hc : Rows.Claimed (·.sellerId == g.sellerId) (·.id) F s.items X) :
    Step g F s { s with items := X } where
  __ := (Step.refl : Step g F s s)
  outside := hout
  items := hc

theorem Step.ofCustomers {X : List Customer}
    (hout : Store.outside g { s with customers := X }=Store.outside g s)
    (hc : Rows.Claimed (·.sellerId == g.sellerId) (·.id) F s.customers X)
    (hkept : ∀ c∈s.customers, ∃ c'∈X, c'.id=c.id ∧ c'.sellerId=c.sellerId) :
    Step g F s { s with customers := X } where
  __ := (Step.refl : Step g F s s)
  outside := hout
  customers := hc
  customersKept := hkept
  linksAdded := fun _ hm => .inl hm

theorem Step.ofItemLinks {X : List ItemLink}
    (hout : Store.outside g { s with itemLinks := X }=Store.outside g s)
    (hc : Rows.Claimed (·.accountId == g.id) (·.id) F s.itemLinks X)
    (hkept : ∀ m∈s.itemLinks, ∃ m'∈X, m'.id=m.id ∧ m'.accountId=m.accountId) :
    Step g F s { s with itemLinks := X } where
  __ := (Step.refl : Step g F s s)
  outside := hout
  itemLinks := hc
  itemLinksKept := hkept

theorem Step.ofCustomerLinks {X : List CustomerLink}
    (hout : Store.outside g { s with customerLinks := X }=Store.outside g s)
    (hc : Rows.Claimed (·.accountId == g.id) (·.id) F s.customerLinks X)
    (hadded : ∀ m∈X, m∈s.customerLinks ∨
      m.accountId=g.id ∧ ∃ c∈s.customers, c.sellerId=g.sellerId ∧ c.id=m.customerId) :
    Step g F s { s with customerLinks := X } where
  __ := (Step.refl : Step g F s s)
  outside := hout
  customerLinks := hc
  linksAdded := hadded

theorem Step.ofOrders {X : List StoredOrder}
    (hout : Store.outside g { s with orders := X }=Store.outside g s)
    (hc : Rows.Claimed (·.accountId == g.id) (·.id) F s.orders X)
    (howners : ∀ k : ChannelAccount, ∀ l∈s.lines, ownsLine k X l=ownsLine k s.orders l)
    (hkept : ∀ o∈s.orders, ∃ o'∈X, o'.id=o.id ∧ o'.accountId=o.accountId) :
    Step g F s { s with orders := X } where
  __ := (Step.refl : Step g F s s)
  outside := hout
  orders := hc
  owners := howners
  lineOrders hlo l hl := (hlo l hl).elim fun o ⟨ho, hi⟩ =>
    (hkept o ho).elim fun o' ⟨ho', hid, _⟩ => ⟨o', ho', hid.trans hi⟩
  ordersKept := hkept

theorem Step.ofLines {X : List StoredLine}
    (hout : Store.outside g { s with lines := X }=Store.outside g s)
    (hc : Rows.Claimed (ownsLine g s.orders) (·.id) F s.lines X)
    (hlo : (∀ l∈s.lines, ∃ o∈s.orders, o.id=l.orderId) → ∀ l∈X, ∃ o∈s.orders, o.id=l.orderId) :
    Step g F s { s with lines := X } where
  __ := (Step.refl : Step g F s s)
  outside := hout
  lines := hc
  owners _ _ _ := rfl
  lineOrders := hlo

theorem Step.ofStock {X : List StockLevel}
    (hout : Store.outside g { s with stock := X }=Store.outside g s)
    (hc : Rows.Claimed (·.accountId == g.id) (·.id) F s.stock X) :
    Step g F s { s with stock := X } where
  __ := (Step.refl : Step g F s s)
  outside := hout
  stock := hc

theorem Step.ofAudit {X : List AuditLine}
    (hout : Store.outside g { s with audit := X }=Store.outside g s)
    (hc : Rows.Claimed (·.sellerId == g.sellerId) (·.id) F s.audit X) :
    Step g F s { s with audit := X } where
  __ := (Step.refl : Step g F s s)
  outside := hout
  audit := hc

theorem Step.lines_outside (hs : Step g F s s') :
    s'.lines.filter (fun l => !ownsLine g s.orders l)=s.lines.filter (fun l => !ownsLine g s.orders l) := by
  have h : s'.lines.filter (fun l => !ownsLine g s'.orders l) =
      s.lines.filter (fun l => !ownsLine g s.orders l) := congrArg Store.lines hs.outside
  rw [← h]
  exact List.filter_congr fun l hl => by simp [hs.owners g l hl]

theorem Step.targets (hs : Step g F s s') {k : ChannelAccount} (hk : k.id=g.id → k.sellerId=g.sellerId)
    (ht : ∀ m∈s.customerLinks, m.accountId=k.id →
      ∃ c∈s.customers, c.sellerId=k.sellerId ∧ c.id=m.customerId) :
    ∀ m∈s'.customerLinks, m.accountId=k.id →
      ∃ c∈s'.customers, c.sellerId=k.sellerId ∧ c.id=m.customerId := by
  intro m hm hmk
  rcases hs.linksAdded m hm with hm | ⟨hmg, c, hc, hcs, hci⟩
  · obtain ⟨c, hc, hcs, hci⟩ := ht m hm hmk
    obtain ⟨c', hc', hid, hsel⟩ := hs.customersKept c hc
    exact ⟨c', hc', hsel.trans hcs, hid.trans hci⟩
  · exact ⟨c, hc, hcs.trans (hk (hmk.symm.trans hmg)).symm, hci⟩

/-- A step keeps the rows apart from the account's part. -/
theorem Apart.step (hg : s.Apart g F) (hs : Step g F s s') : s'.Apart g F where
  items := hg.items.of_outside (congrArg Store.items hs.outside) hs.items
  customers := hg.customers.of_outside (congrArg Store.customers hs.outside) hs.customers
  itemLinks := hg.itemLinks.of_outside (congrArg Store.itemLinks hs.outside) hs.itemLinks
  customerLinks :=
    hg.customerLinks.of_outside (congrArg Store.customerLinks hs.outside) hs.customerLinks
  orders := hg.orders.of_outside (congrArg Store.orders hs.outside) hs.orders
  lines :=
    (hg.lines.of_outside hs.lines_outside hs.lines).congr fun l hl => (hs.owners g l hl).symm
  stock := hg.stock.of_outside (congrArg Store.stock hs.outside) hs.stock
  audit := hg.audit.of_outside (congrArg Store.audit hs.outside) hs.audit
  customerTargets := hs.targets (fun _ => rfl) hg.customerTargets
  lineOrders := hs.lineOrders hg.lineOrders

/-! ### Each call an account makes is a step -/

section Calls

variable {ext : Option String} {cand : CustomerCandidate} {fresh id customer item : Uuid}
  {now : Instant} {a : ChannelAccount} {e sku title : String} {raw : Json} {link : NewItemLink}
  {o : StoredOrder} {l : StoredLine} {x : AuditLine} {location : Option String} {available : Int}

theorem step_resolveCustomer (hg : s.Apart g F) (hF : F fresh) :
    Step g F s (s.resolveCustomer g.sellerId g.id ext cand fresh now).2 := by
  have hout : outside g (s.resolveCustomer g.sellerId g.id ext cand fresh now).2=outside g s :=
    resolveCustomer_outside hg
  cases hm : s.customerMatch g.sellerId g.id ext cand with
  | none =>
    obtain ⟨c, hid, -, -, -, hr⟩ := resolveCustomer_of_none fresh now hm
    rw [hr] at hout ⊢
    exact Step.ofCustomers hout (Rows.claimed_append (x := c) (by rw [hid]; exact hF))
      fun c' hc => ⟨c', List.mem_append_left _ hc, rfl, rfl⟩
  | some i =>
    obtain ⟨f, hf, hr⟩ := resolveCustomer_of_match fresh now hm
    rw [hr] at hout ⊢
    exact Step.ofCustomers hout
      (Rows.claimed_map (fun c => by simp [(hf c).2.1]) fun c => (hf c).1)
      fun c hc => ⟨f c, List.mem_map_of_mem hc, (hf c).1, (hf c).2.1⟩

theorem step_upsertCustomerLink (hg : s.Apart g F) (ha : a.id=g.id) (hF : F fresh)
    (hc : ∃ c∈s.customers, c.sellerId=g.sellerId ∧ c.id=customer) :
    Step g F s (s.upsertCustomerLink a customer e raw fresh now).2 := by
  have hout : outside g (s.upsertCustomerLink a customer e raw fresh now).2=outside g s :=
    upsertCustomerLink_outside hg ha hF
  have hq : ∀ m : CustomerLink, (m.accountId == a.id && m.externalId == e)=true →
      (m.accountId == g.id)=true := by intro m h; simp_all
  revert hout
  simp only [upsertCustomerLink]
  split
  · rename_i x hx
    refine fun hout => Step.ofCustomerLinks hout
      (Rows.claimed_put (Rows.claims_of_find? _ _ hq hx).2 rfl) fun m hm => ?_
    rcases Rows.mem_of_mem_put hm with rfl | hm
    · exact .inr ⟨ha, hc⟩
    · exact .inl hm
  · refine fun hout => Step.ofCustomerLinks hout (Rows.claimed_put (.inl hF) rfl) fun m hm => ?_
    rcases Rows.mem_of_mem_put hm with rfl | hm
    · exact .inr ⟨ha, hc⟩
    · exact .inl hm

theorem step_upsertItem (hg : s.Apart g F) (hF : F fresh) :
    Step g F s (s.upsertItem g.sellerId sku title fresh now).2 := by
  have hout : outside g (s.upsertItem g.sellerId sku title fresh now).2=outside g s :=
    upsertItem_outside hg
  have hq : ∀ i : CatalogItem, (i.sellerId == g.sellerId && i.sku == sku)=true →
      (i.sellerId == g.sellerId)=true := by intro i h; simp_all
  revert hout
  simp only [upsertItem]
  split
  · rename_i x hx
    exact fun hout => Step.ofItems hout (Rows.claimed_put (Rows.claims_of_find? _ _ hq hx).2 rfl)
  · exact fun hout => Step.ofItems hout (Rows.claimed_append hF)

theorem step_upsertItemLink (hg : s.Apart g F) (ha : a.id=g.id) (hF : F fresh) :
    Step g F s (s.upsertItemLink a link fresh now).2 := by
  have hout : outside g (s.upsertItemLink a link fresh now).2=outside g s :=
    upsertItemLink_outside hg ha hF
  have hq : ∀ m : ItemLink, (m.accountId == a.id && m.externalItemId == link.externalItemId &&
      m.externalVariantId == link.externalVariantId)=true → (m.accountId == g.id)=true := by
    intro m h; simp_all
  revert hout
  simp only [upsertItemLink]
  split
  · rename_i x hx
    have hc := (Rows.claims_of_find? (·.id) F hq hx).2
    exact fun hout => Step.ofItemLinks hout (Rows.claimed_put hc rfl)
      (Rows.kept_put hg.itemLinks hc rfl ha)
  · exact fun hout => Step.ofItemLinks hout (Rows.claimed_put (.inl hF) rfl)
      (Rows.kept_put hg.itemLinks (.inl hF) rfl ha)

theorem step_touchItemLink (hg : s.Apart g F) (hk : ∃ m∈s.itemLinks, m.accountId=g.id ∧ m.id=id) :
    Step g F s (s.touchItemLink id now) :=
  Step.ofItemLinks (touchItemLink_outside hg hk)
    (Rows.claimed_map (fun m => by split <;> rfl) fun m => by split <;> rfl)
    fun m hm => ⟨_, List.mem_map_of_mem hm, by split <;> rfl, by split <;> rfl⟩

theorem step_upsertOrder (hg : s.Apart g F) (ho : o.accountId=g.id) (hF : F o.id) :
    Step g F s (s.upsertOrder o).2 := by
  have hout := upsertOrder_outside hg ho hF
  have hq : ∀ e : StoredOrder, (e.accountId == o.accountId &&
      e.externalOrderId == o.externalOrderId)=true → (e.accountId == g.id)=true := by
    intro e h; simp_all
  revert hout
  simp only [upsertOrder]
  split
  · rename_i x hx
    have hc := (Rows.claims_of_find? (·.id) F hq hx).2
    let w : StoredOrder := { o with id := x.id }
    exact fun hout => Step.ofOrders hout (Rows.claimed_put hc rfl)
      (fun k l hl => ownsLine_put_order hg (x := w) ho hc rfl k hl)
      (Rows.kept_put hg.orders hc (x := w) rfl ho)
  · exact fun hout => Step.ofOrders hout (Rows.claimed_put (.inl hF) rfl)
      (fun k l hl => ownsLine_put_order hg ho (.inl hF) rfl k hl)
      (Rows.kept_put hg.orders (.inl hF) rfl ho)

theorem step_upsertLine (hg : s.Apart g F) (hk : ∃ o∈s.orders, o.accountId=g.id ∧ o.id=l.orderId)
    (hF : F l.id) : Step g F s (s.upsertLine l).2 := by
  have hout := upsertLine_outside hg hk
  have hq : ∀ e : StoredLine, e.orderId=l.orderId → ownsLine g s.orders e=true := fun e he =>
    ownsLine_iff.2 (he ▸ hk)
  obtain ⟨o, ho, -, hoi⟩ := hk
  have hlo : ∀ X : List StoredLine, (∀ y∈X, y∈s.lines ∨ y.orderId=l.orderId) →
      (∀ l∈s.lines, ∃ o∈s.orders, o.id=l.orderId) → ∀ y∈X, ∃ o∈s.orders, o.id=y.orderId :=
    fun X hX hlo y hy => (hX y hy).elim (hlo y) fun h => ⟨o, ho, hoi.trans h.symm⟩
  revert hout
  simp only [upsertLine]
  split
  · rename_i x hx
    obtain ⟨ext, -, hx⟩ := Option.bind_eq_some_iff.1 hx
    have hxo : x.orderId=l.orderId := by have := List.find?_some hx; simp_all
    refine fun hout => Step.ofLines hout
      (Rows.claimed_put (.inr ⟨x, List.mem_of_find?_eq_some hx, hq x hxo, rfl⟩) rfl)
      (hlo _ fun y hy => ?_)
    rcases Rows.mem_of_mem_put hy with rfl | hy
    · exact .inr rfl
    · exact .inl hy
  · refine fun hout => Step.ofLines hout (Rows.claimed_append hF) (hlo _ fun y hy => ?_)
    rcases List.mem_append.1 hy with hy | hy
    · exact .inl hy
    · exact .inr (by rw [List.mem_singleton.1 hy])

theorem step_upsertAudit (hg : s.Apart g F) (hx : x.sellerId=g.sellerId) (hF : F x.id) :
    Step g F s (s.upsertAudit x).2 := by
  have hout := upsertAudit_outside hg hx hF
  have hq : ∀ e : AuditLine, (e.sellerId == x.sellerId && e.orderExternalId == x.orderExternalId &&
      e.sku == x.sku)=true → (e.sellerId == g.sellerId)=true := by
    intro e h; simp_all
  revert hout
  simp only [upsertAudit]
  split
  · rename_i e he
    exact fun hout => Step.ofAudit hout (Rows.claimed_put (Rows.claims_of_find? _ _ hq he).2 rfl)
  · exact fun hout => Step.ofAudit hout (Rows.claimed_put (.inl hF) rfl)

theorem step_upsertStock (hg : s.Apart g F) (hF : F fresh) :
    Step g F s (s.upsertStock item g.id location available fresh now).2 := by
  have hout : outside g (s.upsertStock item g.id location available fresh now).2=outside g s :=
    upsertStock_outside hg hF
  have hq : ∀ e : StockLevel, (e.itemId == item && e.accountId == g.id &&
      e.locationId == location)=true → (e.accountId == g.id)=true := by
    intro e h; simp_all
  revert hout
  simp only [upsertStock]
  split
  · rename_i e he
    exact fun hout => Step.ofStock hout (Rows.claimed_put (Rows.claims_of_find? _ _ hq he).2 rfl)
  · exact fun hout => Step.ofStock hout (Rows.claimed_put (.inl hF) rfl)

end Calls

section Separate

variable (hsep : Separate g h F G)
include hsep

/-- A step of one account keeps the rows apart from the part of an account of another seller
that draws other ids. -/
theorem Apart.step_other (hh : s.Apart h G) (hg : s.Apart g F) (hs : Step g F s s') :
    s'.Apart h G where
  items := hh.items.of_other hg.items (fun _ => hsep.seller) hsep.draws
    (congrArg Store.items hs.outside) hs.items
  customers := hh.customers.of_other hg.customers (fun _ => hsep.seller) hsep.draws
    (congrArg Store.customers hs.outside) hs.customers
  itemLinks := hh.itemLinks.of_other hg.itemLinks (fun _ => hsep.account) hsep.draws
    (congrArg Store.itemLinks hs.outside) hs.itemLinks
  customerLinks := hh.customerLinks.of_other hg.customerLinks (fun _ => hsep.account)
    hsep.draws (congrArg Store.customerLinks hs.outside) hs.customerLinks
  orders := hh.orders.of_other hg.orders (fun _ => hsep.account) hsep.draws
    (congrArg Store.orders hs.outside) hs.orders
  lines :=
    (hh.lines.of_other hg.lines (fun _ => ownsLine_disjoint hg.orders hsep.accounts) hsep.draws
      hs.lines_outside hs.lines).congr fun l hl => (hs.owners h l hl).symm
  stock := hh.stock.of_other hg.stock (fun _ => hsep.account) hsep.draws
    (congrArg Store.stock hs.outside) hs.stock
  audit := hh.audit.of_other hg.audit (fun _ => hsep.seller) hsep.draws
    (congrArg Store.audit hs.outside) hs.audit
  customerTargets := hs.targets (fun he => absurd he.symm hsep.accounts) hh.customerTargets
  lineOrders := hs.lineOrders hh.lineOrders

theorem part_outside (hg : s.Apart g F) : part h (outside g s)=part h s := by
  have hown : ownsLine h (s.orders.filter fun o => !(o.accountId == g.id))=ownsLine h s.orders :=
    ownsLine_congr (Rows.filter_filter_of fun _ _ h => by simp [hsep.symm.account h])
  have hline : ∀ l, ownsLine h s.orders l=true → (!ownsLine g s.orders l)=true := fun l hl => by
    cases hg' : ownsLine g s.orders l
    · rfl
    · rw [ownsLine_disjoint hg.orders hsep.accounts hg'] at hl; contradiction
  simp only [part, outside, hown]
  congr 1
  · exact Rows.filter_filter_of fun _ _ h => by simp [hsep.symm.seller h]
  · exact Rows.filter_filter_of fun _ _ h => by simp [hsep.symm.account h]
  · exact Rows.filter_filter_of fun _ _ h => by simp [hsep.symm.seller h]
  · exact Rows.filter_filter_of fun _ _ h => by simp [hsep.symm.account h]
  · exact Rows.filter_filter_of fun _ _ h => by simp [hsep.symm.account h]
  · exact Rows.filter_filter_of fun l _ => hline l
  · exact Rows.filter_filter_of fun _ _ h => by simp [hsep.symm.account h]
  · exact Rows.filter_filter_of fun _ _ h => by simp [hsep.symm.seller h]

theorem outside_comm : outside h (outside g s)=outside g (outside h s) := by
  have hg : ownsLine g (s.orders.filter fun o => !(o.accountId == h.id))=ownsLine g s.orders :=
    ownsLine_congr (Rows.filter_filter_of fun _ _ h => by simp [hsep.account h])
  have hh : ownsLine h (s.orders.filter fun o => !(o.accountId == g.id))=ownsLine h s.orders :=
    ownsLine_congr (Rows.filter_filter_of fun _ _ h => by simp [hsep.symm.account h])
  simp only [outside, hg, hh, List.filter_filter]
  congr 1 <;> exact List.filter_congr fun _ _ => Bool.and_comm _ _

/-- A step of one account leaves the part of an account of another seller. -/
theorem part_step_other (hg : s.Apart g F) (hs : Step g F s s') : part h s'=part h s := by
  rw [← part_outside hsep (hg.step hs), hs.outside, part_outside hsep hg]

end Separate

end SellerSync.Store
