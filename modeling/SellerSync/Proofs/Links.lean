import SellerSync.Proofs.Keys
import SellerSync.Proofs.Erasure
import SellerSync.Proofs.CustomerMatch
/-! Links between the store's tables. -/
namespace SellerSync

/-- An account's id with the seller it belongs to. -/
def ChannelAccount.owner (a : ChannelAccount) : Uuid × Uuid := (a.id, a.sellerId)

namespace Store

/-- The ids of the store's accounts with their sellers. -/
def owners (s : Store) : List (Uuid × Uuid) := s.accounts.map ChannelAccount.owner

/-- An account id with its seller that the store holds, or that is listed as held before. -/
def Knows (s : Store) (seen : List (Uuid × Uuid)) (p : Uuid × Uuid) : Prop :=
  p∈seen ∨ p∈s.owners

/-- The store holds an item of `seller` under `id`. -/
def HasItem (s : Store) (id seller : Uuid) : Prop := ∃ i∈s.items, i.id=id ∧ i.sellerId=seller

/-- The store holds a customer of `seller` under `id`. -/
def HasCustomer (s : Store) (id seller : Uuid) : Prop :=
  ∃ c∈s.customers, c.id=id ∧ c.sellerId=seller

/-- The store's tables refer to each other consistently. -/
structure Linked (s : Store) : Prop where
  lineOrder : ∀ l∈s.lines, ∃ o∈s.orders, o.id=l.orderId
  auditOrder : ∀ x∈s.audit, ∃ o∈s.orders, o.id=x.orderId ∧ o.accountId=x.accountId ∧
    o.sellerId=x.sellerId ∧ o.externalOrderId=x.orderExternalId
  lineItem : ∀ l∈s.lines, ∀ o∈s.orders, o.id=l.orderId → ∀ i, l.itemId=some i →
    s.HasItem i o.sellerId
  orderCustomer : ∀ o∈s.orders, ∀ c, o.customerId=some c → s.HasCustomer c o.sellerId
  itemLinks : ∀ a∈s.accounts, ∀ m∈s.itemLinks, m.accountId=a.id → s.HasItem m.itemId a.sellerId
  customerLinks : ∀ a∈s.accounts, ∀ m∈s.customerLinks, m.accountId=a.id →
    s.HasCustomer m.customerId a.sellerId

/-- The store tied to the account ids and sellers `seen` before: a known account id has one
seller, lines and audit lines have their order, and orders and links are written under known
accounts, for items and customers of the account's seller. -/
structure Tied (seen : List (Uuid × Uuid)) (s : Store) : Prop where
  agree : ∀ {p q}, s.Knows seen p → s.Knows seen q → p.1=q.1 → p.2=q.2
  lines : ∀ l∈s.lines, ∃ o∈s.orders, o.id=l.orderId ∧
    ∀ i, l.itemId=some i → s.HasItem i o.sellerId
  audit : ∀ x∈s.audit, ∃ o∈s.orders, o.id=x.orderId ∧ o.accountId=x.accountId ∧
    o.sellerId=x.sellerId ∧ o.externalOrderId=x.orderExternalId
  orders : ∀ o∈s.orders, s.Knows seen (o.accountId, o.sellerId) ∧
    ∀ c, o.customerId=some c → s.HasCustomer c o.sellerId
  itemLinks : ∀ m∈s.itemLinks, ∃ seller, s.HasItem m.itemId seller ∧
    s.Knows seen (m.accountId, seller)
  customerLinks : ∀ m∈s.customerLinks, ∃ seller, s.HasCustomer m.customerId seller ∧
    s.Knows seen (m.accountId, seller)

/-- What the links read: account ids and sellers, items, customers, links, orders, lines and
audit lines. -/
def linkView (s : Store) :=
  (s.owners, s.items, s.customers, s.itemLinks, s.customerLinks, s.orders, s.lines, s.audit)

variable {s s' : Store} {seen : List (Uuid × Uuid)}

theorem knows_of_mem {a : ChannelAccount} (ha : a∈s.accounts) : s.Knows seen a.owner :=
  .inr (List.mem_map_of_mem ha)

theorem HasItem.mono {id seller : Uuid} (h : s.HasItem id seller)
    (hs : ∀ i∈s.items, s'.HasItem i.id i.sellerId) : s'.HasItem id seller := by
  obtain ⟨i, hi, rfl, rfl⟩ := h
  exact hs i hi

theorem HasCustomer.mono {id seller : Uuid} (h : s.HasCustomer id seller)
    (hs : ∀ c∈s.customers, s'.HasCustomer c.id c.sellerId) : s'.HasCustomer id seller := by
  obtain ⟨c, hc, rfl, rfl⟩ := h
  exact hs c hc

namespace Tied

theorem linked (h : s.Tied seen) (hk : s.Keyed) : s.Linked where
  lineOrder l hl :=
    let ⟨o, ho, hid, _⟩ := h.lines l hl
    ⟨o, ho, hid⟩
  auditOrder := h.audit
  lineItem l hl o ho hid := by
    obtain ⟨o', ho', hid', hitem⟩ := h.lines l hl
    have ho'o : o'=o := hk.orders.eq_of_mem ho' ho (hid'.trans hid.symm)
    exact ho'o ▸ hitem
  orderCustomer o ho := (h.orders o ho).2
  itemLinks a ha m hm hma := by
    obtain ⟨seller, hi, hkn⟩ := h.itemLinks m hm
    have hs : seller=a.sellerId := h.agree hkn (knows_of_mem ha) hma
    exact hs ▸ hi
  customerLinks a ha m hm hma := by
    obtain ⟨seller, hc, hkn⟩ := h.customerLinks m hm
    have hs : seller=a.sellerId := h.agree hkn (knows_of_mem ha) hma
    exact hs ▸ hc

theorem mono (h : s.Tied seen) (hkn : ∀ {p}, s.Knows seen p → s'.Knows seen p)
    (hagree : ∀ {p q}, s'.Knows seen p → s'.Knows seen q → p.1=q.1 → p.2=q.2)
    (hi : ∀ i∈s.items, s'.HasItem i.id i.sellerId)
    (hc : ∀ c∈s.customers, s'.HasCustomer c.id c.sellerId) (ho : s'.orders=s.orders)
    (hl : s'.lines=s.lines) (ha : s'.audit=s.audit) (him : s'.itemLinks=s.itemLinks)
    (hcm : s'.customerLinks=s.customerLinks) : s'.Tied seen where
  agree := hagree
  lines l hl' := by
    obtain ⟨o, ho', hid, hitem⟩ := h.lines l (hl ▸ hl')
    exact ⟨o, ho ▸ ho', hid, fun i hli => (hitem i hli).mono hi⟩
  audit x hx := by
    obtain ⟨o, ho', hrest⟩ := h.audit x (ha ▸ hx)
    exact ⟨o, ho ▸ ho', hrest⟩
  orders o ho' := by
    obtain ⟨hkno, hcust⟩ := h.orders o (ho ▸ ho')
    exact ⟨hkn hkno, fun c hoc => (hcust c hoc).mono hc⟩
  itemLinks m hm := by
    obtain ⟨seller, hs, hkm⟩ := h.itemLinks m (him ▸ hm)
    exact ⟨seller, hs.mono hi, hkn hkm⟩
  customerLinks m hm := by
    obtain ⟨seller, hs, hkm⟩ := h.customerLinks m (hcm ▸ hm)
    exact ⟨seller, hs.mono hc, hkn hkm⟩

theorem congr (h : s.Tied seen) (hv : s'.linkView=s.linkView) : s'.Tied seen := by
  simp only [linkView, Prod.mk.injEq] at hv
  obtain ⟨hown, hi, hc, him, hcm, ho, hl, ha⟩ := hv
  have hk : ∀ p, s'.Knows seen p ↔ s.Knows seen p := fun p => by rw [Knows, Knows, hown]
  exact h.mono (fun hp => (hk _).2 hp) (fun hp hq => h.agree ((hk _).1 hp) ((hk _).1 hq))
    (fun i hi' => ⟨i, hi ▸ hi', rfl, rfl⟩) (fun c hc' => ⟨c, hc ▸ hc', rfl, rfl⟩) ho hl ha him hcm

/-! ### Accounts -/

theorem putAccount (h : s.Tied seen) (b : ChannelAccount)
    (hb : ∀ {q}, s.Knows seen q → q.1=b.id → q.2=b.sellerId) :
    ({ s with accounts := Rows.put (·.id == b.id) b s.accounts } : Store).Tied seen := by
  have hnew : ∀ {p}, ({ s with accounts := Rows.put (·.id == b.id) b s.accounts } : Store).Knows
      seen p → s.Knows seen p ∨ p=b.owner := by
    rintro p (hp | hp)
    · exact .inl (.inl hp)
    · obtain ⟨a, ha, rfl⟩ := List.mem_map.1 hp
      rcases Rows.mem_of_mem_put ha with rfl | ha
      · exact .inr rfl
      · exact .inl (knows_of_mem ha)
  have hkn : ∀ {p}, s.Knows seen p →
      ({ s with accounts := Rows.put (·.id == b.id) b s.accounts } : Store).Knows seen p := by
    rintro p (hp | hp)
    · exact .inl hp
    · obtain ⟨a, ha, rfl⟩ := List.mem_map.1 hp
      rcases Rows.mem_put_of_mem (p := (·.id == b.id)) (x := b) ha with ha' | hab
      · exact .inr (List.mem_map_of_mem ha')
      · have hid : a.id=b.id := by simpa using hab
        have hab' : a.owner=b.owner := Prod.ext hid (hb (knows_of_mem ha) hid)
        exact .inr (hab' ▸ List.mem_map_of_mem (Rows.mem_put _ _ _))
  refine h.mono hkn ?_ (fun i hi => ⟨i, hi, rfl, rfl⟩) (fun c hc => ⟨c, hc, rfl, rfl⟩) rfl rfl
    rfl rfl rfl
  intro p q hp hq hpq
  rcases hnew hp with hp | rfl <;> rcases hnew hq with hq | rfl
  · exact h.agree hp hq hpq
  · exact hb hp hpq
  · exact (hb hq hpq.symm).symm
  · rfl

theorem upsertAccount (h : s.Tied seen) (a : ChannelAccount) (now : Instant)
    (ha : ∀ {q}, s.Knows seen q → q.1=a.id → q.2=a.sellerId) :
    (s.upsertAccount a now).2.Tied seen := by
  simp only [Store.upsertAccount]
  split
  next e he =>
    have hkey : e.key=a.key := ChannelAccount.sameIdentity_iff.1 (List.find?_some he :)
    have hse : e.sellerId=a.sellerId := by
      simp only [ChannelAccount.key, Prod.mk.injEq] at hkey
      exact hkey.1
    let b : ChannelAccount :=
      { a with id := e.id, createdAt := e.createdAt, lastSyncedAt := a.lastSyncedAt.or e.lastSyncedAt,
               updatedAt := now }
    exact h.putAccount b fun hq hid =>
      (h.agree hq (knows_of_mem (List.mem_of_find?_eq_some he)) hid).trans hse
  next => exact h.putAccount { a with updatedAt := now } fun hq hid => ha hq hid

theorem linkView_modifyAccount (h : s.Tied seen) {id : Uuid} {g : ChannelAccount → ChannelAccount}
    {r : ChannelAccount × Store} (hm : s.modifyAccount id g=.ok r) (hg : ∀ a, (g a).owner=a.owner) :
    r.2.linkView=s.linkView := by
  unfold Store.modifyAccount at hm
  split at hm
  next => contradiction
  next a ha =>
    have ha : s.accounts.find? (·.id==id)=some a := ha
    have hai : a.id=id := by simpa using List.find?_some ha
    cases hm
    have hown : (s.accounts.map fun x => if x.id==id then g a else x).map ChannelAccount.owner=
        s.owners := by
      rw [List.map_map, owners]
      refine List.map_congr_left fun x hx => ?_
      by_cases hx' : x.id=id
      · have hxa : a.id=x.id := hai.trans hx'.symm
        simp only [Function.comp_apply, hx', beq_self_eq_true, if_true, hg]
        exact Prod.ext hxa (h.agree (knows_of_mem (List.mem_of_find?_eq_some ha)) (knows_of_mem hx) hxa)
      · simp [hx']
    simp only [linkView, owners] at hown ⊢
    rw [hown]

theorem linkView_applyTokenUpdate (h : s.Tied seen) {id : Uuid} {u : TokenUpdate} {now : Instant}
    {r : ChannelAccount × Store} (hm : s.applyTokenUpdate id u now=.ok r) :
    r.2.linkView=s.linkView :=
  h.linkView_modifyAccount hm fun a => by cases u.refreshToken <;> rfl

theorem linkView_markSynced (h : s.Tied seen) {id : Uuid} {at_ : Instant} {s' : Store}
    (hm : s.markSynced id at_=.ok s') : s'.linkView=s.linkView := by
  unfold Store.markSynced at hm
  cases hr : s.modifyAccount id fun a => { a with lastSyncedAt := some at_ } with
  | error => simp [hr, Except.map] at hm
  | ok r =>
    simp only [hr, Except.map, Except.ok.injEq] at hm
    exact hm ▸ h.linkView_modifyAccount hr fun _ => rfl

theorem linkView_setAccountStatus (h : s.Tied seen) {id : Uuid} {st : AccountStatus}
    {now : Instant} {s' : Store} (hm : s.setAccountStatus id st now=.ok s') :
    s'.linkView=s.linkView := by
  unfold Store.setAccountStatus at hm
  cases hr : s.modifyAccount id fun a => { a with status := st, updatedAt := now } with
  | error => simp [hr, Except.map] at hm
  | ok r =>
    simp only [hr, Except.map, Except.ok.injEq] at hm
    exact hm ▸ h.linkView_modifyAccount hr fun _ => rfl

theorem applyTokenUpdate (h : s.Tied seen) {id : Uuid} {u : TokenUpdate} {now : Instant}
    {r : ChannelAccount × Store} (hm : s.applyTokenUpdate id u now=.ok r) : r.2.Tied seen :=
  h.congr (h.linkView_applyTokenUpdate hm)

theorem markSynced (h : s.Tied seen) {id : Uuid} {at_ : Instant} {s' : Store}
    (hm : s.markSynced id at_=.ok s') : s'.Tied seen :=
  h.congr (h.linkView_markSynced hm)

theorem setAccountStatus (h : s.Tied seen) {id : Uuid} {st : AccountStatus} {now : Instant}
    {s' : Store} (hm : s.setAccountStatus id st now=.ok s') : s'.Tied seen :=
  h.congr (h.linkView_setAccountStatus hm)

theorem deleteAccount (h : s.Tied seen) (hs : ∀ p∈s.owners, p∈seen) {id seller : Uuid}
    {r : Bool × Store} (hm : s.deleteAccount id seller=.ok r) : r.2.Tied seen := by
  unfold Store.deleteAccount at hm
  split at hm
  next => cases hm; exact h
  next a _ =>
    split at hm
    next => contradiction
    next =>
      cases hm
      refine h.mono (fun hp => .inl (hp.elim (fun h => h) (hs _))) ?_ (fun i hi => ⟨i, hi, rfl, rfl⟩)
        (fun c hc => ⟨c, hc, rfl, rfl⟩) rfl rfl rfl rfl rfl
      have hback : ∀ {p}, ({ s with accounts := s.accounts.filter (·.id != id) } : Store).Knows
          seen p → s.Knows seen p := by
        rintro p (hp | hp)
        · exact .inl hp
        · obtain ⟨b, hb, rfl⟩ := List.mem_map.1 hp
          exact knows_of_mem (List.mem_filter.1 hb).1
      intro p q hp hq
      exact h.agree (hback hp) (hback hq)

theorem withoutAccounts (h : s.Tied seen) (hs : ∀ p∈s.owners, p∈seen) (ids : List Uuid) :
    (s.withoutAccounts ids).Tied seen := by
  have hkn : ∀ {p}, s.Knows seen p → (s.withoutAccounts ids).Knows seen p :=
    fun hp => .inl (hp.elim id (hs _))
  have hback : ∀ {p}, (s.withoutAccounts ids).Knows seen p → s.Knows seen p := by
    rintro p (hp | hp)
    · exact .inl hp
    · obtain ⟨a, ha, rfl⟩ := List.mem_map.1 hp
      exact knows_of_mem (List.mem_filter.1 ha).1
  have hord : ∀ o∈s.orders, o.accountId∉ids → o∈(s.withoutAccounts ids).orders :=
    fun o ho hid => List.mem_filter.2 ⟨ho, by simpa using hid⟩
  refine ⟨fun hp hq => h.agree (hback hp) (hback hq), ?_, ?_, ?_, ?_, ?_⟩
  · intro l hl
    have hl' := List.mem_filter.1 hl
    obtain ⟨o, ho, hid, hitem⟩ := h.lines l hl'.1
    refine ⟨o, hord o ho fun hacc => ?_, hid, hitem⟩
    have hmem : l.orderId∈s.orderIdsOf ids := mem_orderIdsOf.2 ⟨o, ho, hacc, hid⟩
    simp [hmem] at hl'
  · intro x hx
    have hx' := List.mem_filter.1 hx
    obtain ⟨o, ho, hid, hacc, hrest⟩ := h.audit x hx'.1
    refine ⟨o, hord o ho fun hin => ?_, hid, hacc, hrest⟩
    rw [hacc] at hin
    simp [hin] at hx'
  · intro o ho
    obtain ⟨hko, hc⟩ := h.orders o (List.mem_filter.1 ho).1
    exact ⟨hkn hko, hc⟩
  · intro m hm
    obtain ⟨seller, hi, hk⟩ := h.itemLinks m (List.mem_filter.1 hm).1
    exact ⟨seller, hi, hkn hk⟩
  · intro m hm
    obtain ⟨seller, hc, hk⟩ := h.customerLinks m (List.mem_filter.1 hm).1
    exact ⟨seller, hc, hkn hk⟩

theorem eraseIdentity (h : s.Tied seen) (hs : ∀ p∈s.owners, p∈seen) (m : Marketplace)
    (ext : String) (fresh : Uuid) (now : Instant) : (s.eraseIdentity m ext fresh now).2.Tied seen := by
  simp only [Store.eraseIdentity]
  split
  next => exact h.congr rfl
  next =>
    have hw := h.withoutAccounts hs ((s.accounts.filter fun a =>
      a.marketplace==m && !(Text.trim ext).isEmpty && a.externalId==some (Text.trim ext)).map (·.id))
    rw [← foldl_eraseAccount_fst _ (s, [])] at hw
    revert hw
    generalize List.foldl _ _ _=r
    intro hw
    exact hw.congr rfl

/-! ### Items and listing links -/

theorem upsertItem (h : s.Tied seen) (hk : s.Keyed) (seller : Uuid) (sku title : String)
    (fresh : Uuid) (now : Instant) : (s.upsertItem seller sku title fresh now).2.Tied seen := by
  unfold Store.upsertItem
  split
  next e he =>
    refine h.mono (fun hp => hp) h.agree ?_ (fun c hc => ⟨c, hc, rfl, rfl⟩) rfl rfl rfl rfl rfl
    intro i hi
    rcases Rows.mem_put_of_mem (p := (·.id == e.id)) (x := { e with title, updatedAt := now }) hi
      with hi' | hie
    · exact ⟨i, hi', rfl, rfl⟩
    · have hie' : i=e := hk.items.eq_of_mem hi (List.mem_of_find?_eq_some he) (by simpa using hie)
      subst hie'
      exact ⟨_, Rows.mem_put _ _ _, rfl, rfl⟩
  next =>
    exact h.mono (fun hp => hp) h.agree (fun i hi => ⟨i, List.mem_append_left _ hi, rfl, rfl⟩)
      (fun c hc => ⟨c, hc, rfl, rfl⟩) rfl rfl rfl rfl rfl

theorem hasItem_upsertItem (s : Store) (seller : Uuid) (sku title : String) (fresh : Uuid)
    (now : Instant) :
    (s.upsertItem seller sku title fresh now).2.HasItem (s.upsertItem seller sku title fresh now).1.id
      seller := by
  unfold Store.upsertItem
  split
  next e he =>
    have hp := List.find?_some he
    simp only [Bool.and_eq_true, beq_iff_eq] at hp
    have hs : e.sellerId=seller := hp.1
    exact ⟨_, Rows.mem_put _ _ _, rfl, hs⟩
  next => exact ⟨_, List.mem_append_right _ (List.mem_singleton_self _), rfl, rfl⟩

theorem upsertItemLink (h : s.Tied seen) (account : ChannelAccount) (link : NewItemLink)
    (fresh : Uuid) (now : Instant) (hi : s.HasItem link.itemId account.sellerId)
    (ha : s.Knows seen account.owner) : (s.upsertItemLink account link fresh now).2.Tied seen :=
  { h with itemLinks := Rows.all_put h.itemLinks ⟨account.sellerId, hi, ha⟩ }

theorem touchItemLink (h : s.Tied seen) (id : Uuid) (now : Instant) :
    (s.touchItemLink id now).Tied seen :=
  { h with itemLinks := Rows.all_map h.itemLinks fun m hm => by split <;> exact hm }

theorem hasItem_of_link (h : s.Tied seen) {account : ChannelAccount} (ha : s.Knows seen account.owner)
    {m : ItemLink} (hm : m∈s.itemLinks) (hma : m.accountId=account.id) :
    s.HasItem m.itemId account.sellerId := by
  obtain ⟨seller, hi, hk⟩ := h.itemLinks m hm
  have hs : seller=account.sellerId := h.agree hk ha hma
  exact hs ▸ hi

theorem hasItem_findItemLink (h : s.Tied seen) {account : ChannelAccount}
    (ha : s.Knows seen account.owner) {ext : String} {m : ItemLink}
    (hm : s.findItemLink account.id ext=some m) : s.HasItem m.itemId account.sellerId := by
  have hown : m∈s.itemLinks.filter (·.accountId == account.id) := by
    simp only [findItemLink, Option.or_eq_some_iff] at hm
    rcases hm with hm | ⟨-, hm | ⟨-, hm⟩⟩ <;> exact List.mem_of_find?_eq_some hm
  have hmem := List.mem_filter.1 hown
  exact h.hasItem_of_link ha hmem.1 (by simpa using hmem.2)

/-! ### Customers -/

theorem resolveCustomer (h : s.Tied seen) {seller account : Uuid} {ext : Option String}
    {cand : CustomerCandidate} {fresh : Uuid} {now : Instant} :
    (s.resolveCustomer seller account ext cand fresh now).2.Tied seen := by
  cases hm : s.customerMatch seller account ext cand with
  | none =>
    obtain ⟨c, -, -, -, -, hr⟩ := resolveCustomer_of_none fresh now hm
    rw [hr]
    exact h.mono (fun hp => hp) h.agree (fun i hi => ⟨i, hi, rfl, rfl⟩)
      (fun c' hc => ⟨c', List.mem_append_left _ hc, rfl, rfl⟩) rfl rfl rfl rfl rfl
  | some id =>
    obtain ⟨g, hg, hr⟩ := resolveCustomer_of_match fresh now hm
    rw [hr]
    exact h.mono (fun hp => hp) h.agree (fun i hi => ⟨i, hi, rfl, rfl⟩)
      (fun c hc => ⟨g c, List.mem_map_of_mem hc, (hg c).1, (hg c).2.1⟩) rfl rfl rfl rfl rfl

theorem hasCustomer_of_match (h : s.Tied seen) {seller account : Uuid} {ext : Option String}
    {cand : CustomerCandidate} (ha : s.Knows seen (account, seller)) {id : Uuid}
    (hm : s.customerMatch seller account ext cand=some id) : s.HasCustomer id seller := by
  simp only [customerMatch] at hm
  cases hc : s.contactMatch seller cand with
  | some c =>
    simp only [hc, Option.map_some, Option.some_or, Option.some.injEq] at hm
    have hmem := List.mem_filter.1 (Rows.mem_of_earliest hc)
    simp only [Bool.and_eq_true, beq_iff_eq] at hmem
    exact ⟨c, hmem.1, hm, hmem.2.1⟩
  | none =>
    simp only [hc, Option.map_none, Option.none_or, Option.bind_eq_some_iff] at hm
    obtain ⟨e, -, hl⟩ := hm
    simp only [linkMatch, Option.bind_eq_some_iff] at hl
    obtain ⟨m, hfind, hif⟩ := hl
    have hid : m.customerId=id := by
      split at hif
      · exact Option.some.inj hif
      · contradiction
    have hma : m.accountId=account := by
      have hp := List.find?_some hfind
      simp only [Bool.and_eq_true, beq_iff_eq] at hp
      exact hp.1
    obtain ⟨seller', hcs, hk⟩ := h.customerLinks m (List.mem_of_find?_eq_some hfind)
    have hs : seller'=seller := h.agree hk ha hma
    exact hid ▸ hs ▸ hcs

theorem hasCustomer_resolveCustomer (h : s.Tied seen) {seller account : Uuid}
    {ext : Option String} {cand : CustomerCandidate} {fresh : Uuid} {now : Instant}
    (ha : s.Knows seen (account, seller)) :
    (s.resolveCustomer seller account ext cand fresh now).2.HasCustomer
      (s.resolveCustomer seller account ext cand fresh now).1 seller := by
  cases hm : s.customerMatch seller account ext cand with
  | none =>
    obtain ⟨c, hid, hs, -, -, hr⟩ := resolveCustomer_of_none fresh now hm
    rw [hr]
    exact ⟨c, List.mem_append_right _ (List.mem_singleton_self _), hid, hs⟩
  | some id =>
    obtain ⟨g, hg, hr⟩ := resolveCustomer_of_match fresh now hm
    rw [hr]
    exact (h.hasCustomer_of_match ha hm).mono fun c hc =>
      ⟨g c, List.mem_map_of_mem hc, (hg c).1, (hg c).2.1⟩

theorem upsertCustomerLink (h : s.Tied seen) (account : ChannelAccount) (customer : Uuid)
    (ext : String) (raw : Json) (fresh : Uuid) (now : Instant)
    (hc : s.HasCustomer customer account.sellerId) (ha : s.Knows seen account.owner) :
    (s.upsertCustomerLink account customer ext raw fresh now).2.Tied seen :=
  { h with customerLinks := Rows.all_put h.customerLinks ⟨account.sellerId, hc, ha⟩ }

/-! ### Orders, lines and audit lines -/

theorem upsertOrder_cases (hk : s.Keyed) (o : StoredOrder)
    (hfresh : ∀ y∈s.orders, y.id≠o.id) :
    ∃ id, s.upsertOrder o=({ o with id }, { s with orders := Rows.put (·.id == id) { o with id } s.orders }) ∧
      ∀ y∈s.orders, y.id=id → y.accountId=o.accountId ∧ y.externalOrderId=o.externalOrderId := by
  unfold Store.upsertOrder
  split
  next e he =>
    refine ⟨e.id, rfl, fun y hy hid => ?_⟩
    have hye : y=e := hk.orders.eq_of_mem hy (List.mem_of_find?_eq_some he) hid
    subst hye
    simpa using List.find?_some he
  next => exact ⟨o.id, rfl, fun y hy hid => absurd hid (hfresh y hy)⟩

theorem upsertOrder (h : s.Tied seen) (hk : s.Keyed) (o : StoredOrder)
    (hfresh : ∀ y∈s.orders, y.id≠o.id) (ho : s.Knows seen (o.accountId, o.sellerId))
    (hc : ∀ c, o.customerId=some c → s.HasCustomer c o.sellerId) :
    (s.upsertOrder o).2.Tied seen := by
  obtain ⟨id, hr, hkey⟩ := upsertOrder_cases hk o hfresh
  rw [hr]
  have hrep : ∀ y∈s.orders, (·.id == id) y=true →
      y.id=id ∧ y.accountId=o.accountId ∧ y.sellerId=o.sellerId ∧
        y.externalOrderId=o.externalOrderId := by
    intro y hy hp
    have hid : y.id=id := by simpa using hp
    obtain ⟨hacc, hext⟩ := hkey y hy hid
    exact ⟨hid, hacc, h.agree (h.orders y hy).1 ho hacc, hext⟩
  refine ⟨h.agree, ?_, ?_, ?_, h.itemLinks, h.customerLinks⟩
  · intro l hl
    refine Rows.exists_put (h.lines l hl) fun y hy hp ⟨hid, hitem⟩ => ?_
    obtain ⟨hyid, -, hs, -⟩ := hrep y hy hp
    exact ⟨hyid ▸ hid, hs ▸ hitem⟩
  · intro x hx
    refine Rows.exists_put (h.audit x hx) fun y hy hp ⟨hid, hacc, hsel, hext⟩ => ?_
    obtain ⟨hyid, hacc', hs, hext'⟩ := hrep y hy hp
    exact ⟨hyid ▸ hid, hacc' ▸ hacc, hs ▸ hsel, hext' ▸ hext⟩
  · exact Rows.all_put h.orders ⟨ho, hc⟩

theorem upsertLine (h : s.Tied seen) (l : StoredLine)
    (hl : ∃ o∈s.orders, o.id=l.orderId ∧ ∀ i, l.itemId=some i → s.HasItem i o.sellerId) :
    (s.upsertLine l).2.Tied seen := by
  simp only [Store.upsertLine]
  split
  next => exact { h with lines := Rows.all_put h.lines hl }
  next => exact { h with lines := Rows.all_append h.lines hl }

theorem upsertAudit (h : s.Tied seen) (x : AuditLine)
    (hx : ∃ o∈s.orders, o.id=x.orderId ∧ o.accountId=x.accountId ∧ o.sellerId=x.sellerId ∧
      o.externalOrderId=x.orderExternalId) : (s.upsertAudit x).2.Tied seen := by
  unfold Store.upsertAudit
  split <;> exact { h with audit := Rows.all_put h.audit hx }

end Tied

end Store

end SellerSync
