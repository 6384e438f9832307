import SellerSync.Proofs.Rows
import SellerSync.Store.Accounts
import SellerSync.Store.Catalog
import SellerSync.Store.Customers
import SellerSync.Store.Orders
import SellerSync.Store.Quotes
import SellerSync.Store.Inbound
import SellerSync.Store.Erase
/-! Natural keys of the store's tables. -/
namespace SellerSync

/-! ### Keys of rows -/

def ChannelAccount.key (a : ChannelAccount) : Uuid × Marketplace × Option String :=
  (a.sellerId, a.marketplace, a.externalId)

def CatalogItem.key (i : CatalogItem) : Uuid × String := (i.sellerId, i.sku)

def ItemLink.key (m : ItemLink) : Uuid × String × Option String :=
  (m.accountId, m.externalItemId, m.externalVariantId)

def CustomerLink.key (m : CustomerLink) : Uuid × String := (m.accountId, m.externalId)

def StoredOrder.key (o : StoredOrder) : Uuid × String := (o.accountId, o.externalOrderId)

/-- A line is keyed by its order and external line id; a line without one has no key. -/
def StoredLine.key (l : StoredLine) : Option (Uuid × String) := l.externalLineId.map (l.orderId, ·)

def StockLevel.key (l : StockLevel) : Uuid × Uuid × Option String := (l.itemId, l.accountId, l.locationId)

def ShippingLabel.key (l : ShippingLabel) : Uuid × String := (l.accountId, l.shipmentId)

def AuditLine.key (a : AuditLine) : Uuid × String × Option String :=
  (a.sellerId, a.orderExternalId, a.sku)

def InboundShipment.key (x : InboundShipment) : Uuid × String := (x.accountId, x.shipmentId)

/-- Two lines share a key: both carry the same order and external line id. -/
def StoredLine.SameKey (a b : StoredLine) : Prop := a.key.isSome ∧ a.key=b.key

/-- Two quotes share a key: same city, state and item count, and bands equal as numbers. -/
def CachedQuote.SameKey (a b : CachedQuote) : Prop :=
  a.cityLower=b.cityLower ∧ a.stateLower=b.stateLower ∧ a.weightBand.eqValue b.weightBand=true ∧
    a.itemCount=b.itemCount

/-- Every table holds at most one row per natural key, and no two rows of a table share an id. -/
structure Store.Keyed (s : Store) : Prop where
  accounts : Rows.Keyed (·.id) (fun a b => a.key=b.key) s.accounts
  items : Rows.Keyed (·.id) (fun a b => a.key=b.key) s.items
  itemLinks : Rows.Keyed (·.id) (fun a b => a.key=b.key) s.itemLinks
  customers : Rows.Keyed (·.id) (fun _ _ => False) s.customers
  customerLinks : Rows.Keyed (·.id) (fun a b => a.key=b.key) s.customerLinks
  orders : Rows.Keyed (·.id) (fun a b => a.key=b.key) s.orders
  lines : Rows.Keyed (·.id) StoredLine.SameKey s.lines
  stock : Rows.Keyed (·.id) (fun a b => a.key=b.key) s.stock
  labels : Rows.Keyed (·.id) (fun a b => a.key=b.key) s.labels
  audit : Rows.Keyed (·.id) (fun a b => a.key=b.key) s.audit
  quotes : Rows.Keyed (·.id) CachedQuote.SameKey s.quotes
  inbound : Rows.Keyed (·.id) (fun a b => a.key=b.key) s.inbound

/-! ### Bands compared as numbers -/

namespace Binary64

/-- A finite value's numerator with its sign; its value is this over `toRatio.2.2`. -/
def signedNum (x : Binary64) : Int :=
  if x.negative then -((x.toRatio.2.1 : Nat) : Int) else ((x.toRatio.2.1 : Nat) : Int)

theorem scaledValue_eq (x : Binary64) (s : Nat) : x.scaledValue s=x.signedNum*s := by
  simp only [scaledValue, signedNum, show x.toRatio.1=x.negative from rfl]
  cases x.negative <;> simp only [if_true, if_false, Bool.false_eq_true, Int.natCast_mul, Int.neg_mul]

theorem den_pos (x : Binary64) : 0<x.toRatio.2.2 := Nat.pow_pos_iff.2 (.inl (by decide))

theorem le_trans {a b c : Binary64} (hab : a.le b=true) (hbc : b.le c=true) : a.le c=true := by
  unfold le at *
  by_cases hna : a.isNaN <;> by_cases hnb : b.isNaN <;> by_cases hnc : c.isNaN <;> simp_all
  -- infinities compare by sign alone; only three finite values need arithmetic
  by_cases hf : a.isFinite ∧ b.isFinite ∧ c.isFinite
  case neg =>
    by_cases hfa : a.isFinite <;> by_cases hfb : b.isFinite <;> by_cases hfc : c.isFinite <;>
      simp_all
    revert hab hbc
    cases a.negative <;> cases b.negative <;> cases c.negative <;> simp
  obtain ⟨hfa, hfb, hfc⟩ := hf
  simp only [hfa, hfb, hfc] at hab hbc ⊢
  rw [scaledValue_eq, scaledValue_eq] at *
  have hda : (0 : Int)<a.toRatio.2.2 := by exact_mod_cast den_pos a
  have hdb : (0 : Int)<b.toRatio.2.2 := by exact_mod_cast den_pos b
  have hdc : (0 : Int)<c.toRatio.2.2 := by exact_mod_cast den_pos c
  have h1 := Int.mul_le_mul_of_nonneg_right hab (Int.le_of_lt hdc)
  have h2 := Int.mul_le_mul_of_nonneg_right hbc (Int.le_of_lt hda)
  have h3 : (b.toRatio.2.2 : Int)*(a.signedNum*c.toRatio.2.2)≤
      (b.toRatio.2.2 : Int)*(c.signedNum*a.toRatio.2.2) := by
    calc (b.toRatio.2.2 : Int)*(a.signedNum*c.toRatio.2.2)
        =a.signedNum*b.toRatio.2.2*c.toRatio.2.2 := by ac_rfl
      _ ≤ b.signedNum*a.toRatio.2.2*c.toRatio.2.2 := h1
      _ =b.signedNum*c.toRatio.2.2*a.toRatio.2.2 := by ac_rfl
      _ ≤ c.signedNum*b.toRatio.2.2*a.toRatio.2.2 := h2
      _ =(b.toRatio.2.2 : Int)*(c.signedNum*a.toRatio.2.2) := by ac_rfl
  exact Int.le_of_mul_le_mul_left h3 hdb

theorem eqValue_symm {a b : Binary64} (h : a.eqValue b=true) : b.eqValue a=true := by
  unfold eqValue at *
  rw [Bool.and_comm]
  exact h

theorem eqValue_trans {a b c : Binary64} (hab : a.eqValue b=true) (hbc : b.eqValue c=true) :
    a.eqValue c=true := by
  unfold eqValue at *
  simp only [Bool.and_eq_true] at *
  exact ⟨le_trans hab.1 hbc.1, le_trans hbc.2 hab.2⟩

end Binary64

theorem CachedQuote.SameKey.symm {a b : CachedQuote} (h : a.SameKey b) : b.SameKey a :=
  ⟨h.1.symm, h.2.1.symm, Binary64.eqValue_symm h.2.2.1, h.2.2.2.symm⟩

theorem CachedQuote.SameKey.trans {a b c : CachedQuote} (h : a.SameKey b) (h' : b.SameKey c) :
    a.SameKey c :=
  ⟨h.1.trans h'.1, h.2.1.trans h'.2.1, Binary64.eqValue_trans h.2.2.1 h'.2.2.1,
    h.2.2.2.trans h'.2.2.2⟩

theorem CachedQuote.sameKey_iff {a b : CachedQuote} :
    (a.cityLower==b.cityLower && a.stateLower==b.stateLower && a.weightBand.eqValue b.weightBand &&
      a.itemCount==b.itemCount)=true ↔ a.SameKey b := by
  simp [CachedQuote.SameKey, and_assoc]

theorem StoredLine.SameKey.symm {a b : StoredLine} (h : a.SameKey b) : b.SameKey a :=
  ⟨h.2 ▸ h.1, h.2.symm⟩

theorem StoredLine.SameKey.trans {a b c : StoredLine} (h : a.SameKey b) (h' : b.SameKey c) :
    a.SameKey c :=
  ⟨h.1, h.2.trans h'.2⟩

theorem ChannelAccount.sameIdentity_iff {a b : ChannelAccount} :
    a.sameIdentity b=true ↔ a.key=b.key := by
  simp [ChannelAccount.sameIdentity, ChannelAccount.key, and_assoc]

/-! ### Every write keeps the store keyed

Rows appended outright need ids no row of their table has. -/

namespace Store.Keyed

variable {s : Store}

theorem upsertAccount (h : s.Keyed) (a : ChannelAccount) (now : Instant) :
    (s.upsertAccount a now).2.Keyed := by
  refine { h with accounts := ?_ }
  simp only [Store.upsertAccount]
  split
  next e he =>
    exact h.accounts.put_found (fun h => h.symm) (fun h h' => h.trans h') (fun _ => beq_iff_eq)
      (fun _ => ChannelAccount.sameIdentity_iff) he rfl
  next he =>
    exact h.accounts.put_new (fun h => h.symm) (fun _ => beq_iff_eq)
      (fun _ => ChannelAccount.sameIdentity_iff) he

theorem modifyAccount (h : s.Keyed) {id : Uuid} {g : ChannelAccount → ChannelAccount}
    {r : ChannelAccount × Store} (hm : s.modifyAccount id g=.ok r)
    (hg : ∀ a, (g a).id=a.id ∧ (g a).key=a.key) : r.2.Keyed := by
  unfold Store.modifyAccount at hm
  split at hm
  next => contradiction
  next a ha =>
    have ha : s.accounts.find? (·.id==id)=some a := ha
    have hai : a.id=id := by simpa using List.find?_some ha
    cases hm
    refine { h with accounts := h.accounts.map_key _ fun y hy => ?_ }
    by_cases hy' : y.id=id
    · have hya : y=a := h.accounts.eq_of_mem hy (List.mem_of_find?_eq_some ha)
        (hy'.trans hai.symm)
      subst hya
      simp [hy', hg]
    · simp [hy']

theorem applyTokenUpdate (h : s.Keyed) {id : Uuid} {u : TokenUpdate} {now : Instant}
    {r : ChannelAccount × Store} (hm : s.applyTokenUpdate id u now=.ok r) : r.2.Keyed :=
  h.modifyAccount hm fun a => by cases u.refreshToken <;> exact ⟨rfl, rfl⟩

theorem markSynced (h : s.Keyed) {id : Uuid} {at_ : Instant} {s' : Store}
    (hm : s.markSynced id at_=.ok s') : s'.Keyed := by
  unfold Store.markSynced at hm
  cases hr : s.modifyAccount id fun a => { a with lastSyncedAt := some at_ } with
  | error => simp [hr, Except.map] at hm
  | ok r =>
    simp only [hr, Except.map, Except.ok.injEq] at hm
    exact hm ▸ h.modifyAccount hr fun _ => ⟨rfl, rfl⟩

theorem setAccountStatus (h : s.Keyed) {id : Uuid} {st : AccountStatus} {now : Instant}
    {s' : Store} (hm : s.setAccountStatus id st now=.ok s') : s'.Keyed := by
  unfold Store.setAccountStatus at hm
  cases hr : s.modifyAccount id fun a => { a with status := st, updatedAt := now } with
  | error => simp [hr, Except.map] at hm
  | ok r =>
    simp only [hr, Except.map, Except.ok.injEq] at hm
    exact hm ▸ h.modifyAccount hr fun _ => ⟨rfl, rfl⟩

theorem deleteAccount (h : s.Keyed) {id seller : Uuid} {r : Bool × Store}
    (hm : s.deleteAccount id seller=.ok r) : r.2.Keyed := by
  unfold Store.deleteAccount at hm
  split at hm
  next => cases hm; exact h
  next a _ =>
    split at hm
    next => contradiction
    next => cases hm; exact { h with accounts := h.accounts.filter _ }

theorem upsertItem (h : s.Keyed) {seller : Uuid} {sku title : String} {fresh : Uuid}
    (now : Instant) (hfresh : ∀ i∈s.items, i.id≠fresh) :
    (s.upsertItem seller sku title fresh now).2.Keyed := by
  have hq : ∀ y : CatalogItem, (y.sellerId==seller && y.sku==sku)=true ↔ y.key=(seller, sku) :=
    fun y => by simp [CatalogItem.key]
  unfold Store.upsertItem
  split
  next e he =>
    have he' := List.find?_some he
    exact { h with items := h.items.put_found_key (fun _ => beq_iff_eq) hq he rfl ((hq e).1 he') }
  next he => exact { h with items := h.items.append_new hfresh (fun y => hq y) he }

theorem upsertItemLink (h : s.Keyed) (account : ChannelAccount) (link : NewItemLink)
    (fresh : Uuid) (now : Instant) : (s.upsertItemLink account link fresh now).2.Keyed := by
  have hq : ∀ y : ItemLink, (y.accountId==account.id && y.externalItemId==link.externalItemId &&
      y.externalVariantId==link.externalVariantId)=true ↔
      y.key=(account.id, link.externalItemId, link.externalVariantId) :=
    fun y => by simp [ItemLink.key, and_assoc]
  refine { h with itemLinks := ?_ }
  simp only [Store.upsertItemLink]
  split
  next e he => exact h.itemLinks.put_found_key (fun _ => beq_iff_eq) hq he rfl rfl
  next he => exact h.itemLinks.put_new_key (fun _ => beq_iff_eq) hq he rfl

theorem touchItemLink (h : s.Keyed) (id : Uuid) (now : Instant) : (s.touchItemLink id now).Keyed :=
  { h with itemLinks := h.itemLinks.map_key _ fun _ _ => by split <;> exact ⟨rfl, rfl⟩ }

theorem resolveCustomer (h : s.Keyed) {seller account : Uuid} {ext : Option String}
    {cand : CustomerCandidate} {fresh : Uuid} {now : Instant}
    (hfresh : ∀ c∈s.customers, c.id≠fresh) :
    (s.resolveCustomer seller account ext cand fresh now).2.Keyed := by
  simp only [Store.resolveCustomer]
  split
  next =>
    refine { h with customers := h.customers.map _ (fun y _ => ?_) fun _ _ _ _ h => h }
    cases cand.address with
    | none => rfl
    | some addr => dsimp only; split <;> rfl
  next => exact { h with customers := h.customers.append hfresh fun _ _ h => h }

theorem upsertCustomerLink (h : s.Keyed) (account : ChannelAccount) (customer : Uuid)
    (ext : String) (raw : Json) (fresh : Uuid) (now : Instant) :
    (s.upsertCustomerLink account customer ext raw fresh now).2.Keyed := by
  have hq : ∀ y : CustomerLink, (y.accountId==account.id && y.externalId==ext)=true ↔
      y.key=(account.id, ext) :=
    fun y => by simp [CustomerLink.key]
  refine { h with customerLinks := ?_ }
  simp only [Store.upsertCustomerLink]
  split
  next e he => exact h.customerLinks.put_found_key (fun _ => beq_iff_eq) hq he rfl rfl
  next he => exact h.customerLinks.put_new_key (fun _ => beq_iff_eq) hq he rfl

theorem upsertOrder (h : s.Keyed) (o : StoredOrder) : (s.upsertOrder o).2.Keyed := by
  have hq : ∀ y : StoredOrder, (y.accountId==o.accountId && y.externalOrderId==o.externalOrderId)=true ↔
      y.key=o.key :=
    fun y => by simp [StoredOrder.key]
  refine { h with orders := ?_ }
  simp only [Store.upsertOrder]
  split
  next e he => exact h.orders.put_found_key (fun _ => beq_iff_eq) hq he rfl rfl
  next he => exact h.orders.put_new_key (fun _ => beq_iff_eq) hq he rfl

theorem upsertLine (h : s.Keyed) (l : StoredLine) (hfresh : ∀ y∈s.lines, y.id≠l.id) :
    (s.upsertLine l).2.Keyed := by
  simp only [Store.upsertLine]
  cases hext : l.externalLineId with
  | none =>
    refine { h with lines := h.lines.append hfresh fun y _ hy => ?_ }
    obtain ⟨hs, hn⟩ := hy
    rw [hn] at hs
    simp [StoredLine.key, hext] at hs
  | some ext =>
    have hq : ∀ x : StoredLine, x.orderId=l.orderId → x.externalLineId=some ext →
        ∀ y : StoredLine, (y.orderId==l.orderId && y.externalLineId==some ext)=true ↔
          y.SameKey x := fun x ho hx y => by
      cases hy : y.externalLineId <;> simp [StoredLine.SameKey, StoredLine.key, ho, hx, hy, and_comm]
    simp only [Option.bind_some]
    split
    next e he =>
      refine { h with lines := ?_ }
      exact h.lines.put_found StoredLine.SameKey.symm StoredLine.SameKey.trans
        (fun _ => beq_iff_eq) (hq _ rfl rfl) he rfl
    next he => exact { h with lines := h.lines.append_new hfresh (hq l rfl hext) he }

theorem upsertStock (h : s.Keyed) (item account : Uuid) (location : Option String)
    (available : Int) (fresh : Uuid) (now : Instant) :
    (s.upsertStock item account location available fresh now).2.Keyed := by
  have hq : ∀ y : StockLevel, (y.itemId==item && y.accountId==account && y.locationId==location)=true ↔
      y.key=(item, account, location) :=
    fun y => by simp [StockLevel.key, and_assoc]
  refine { h with stock := ?_ }
  simp only [Store.upsertStock]
  split
  next e he => exact h.stock.put_found_key (fun _ => beq_iff_eq) hq he rfl rfl
  next he => exact h.stock.put_new_key (fun _ => beq_iff_eq) hq he rfl

theorem upsertLabel (h : s.Keyed) (l : ShippingLabel) : (s.upsertLabel l).2.Keyed := by
  have hq : ∀ y : ShippingLabel, (y.accountId==l.accountId && y.shipmentId==l.shipmentId)=true ↔
      y.key=l.key :=
    fun y => by simp [ShippingLabel.key]
  refine { h with labels := ?_ }
  simp only [Store.upsertLabel]
  split
  next e he => exact h.labels.put_found_key (fun _ => beq_iff_eq) hq he rfl rfl
  next he => exact h.labels.put_new_key (fun _ => beq_iff_eq) hq he rfl

theorem upsertAudit (h : s.Keyed) (a : AuditLine) : (s.upsertAudit a).2.Keyed := by
  have hq : ∀ y : AuditLine, (y.sellerId==a.sellerId && y.orderExternalId==a.orderExternalId &&
      y.sku==a.sku)=true ↔ y.key=a.key :=
    fun y => by simp [AuditLine.key, and_assoc]
  refine { h with audit := ?_ }
  simp only [Store.upsertAudit]
  split
  next e he => exact h.audit.put_found_key (fun _ => beq_iff_eq) hq he rfl rfl
  next he => exact h.audit.put_new_key (fun _ => beq_iff_eq) hq he rfl

theorem upsertQuote (h : s.Keyed) (q : CachedQuote) : (s.upsertQuote q).2.Keyed := by
  have hq : ∀ y : CachedQuote, _ ↔ y.SameKey q := fun _ => CachedQuote.sameKey_iff
  refine { h with quotes := ?_ }
  simp only [Store.upsertQuote]
  split
  next e he =>
    exact h.quotes.put_found CachedQuote.SameKey.symm CachedQuote.SameKey.trans
      (fun _ => beq_iff_eq) hq he rfl
  next he => exact h.quotes.put_new CachedQuote.SameKey.symm (fun _ => beq_iff_eq) hq he

theorem upsertInbound (h : s.Keyed) (x : InboundShipment) (now : Instant) :
    (s.upsertInbound x now).2.Keyed := by
  have hq : ∀ y : InboundShipment, (y.accountId==x.accountId && y.shipmentId==x.shipmentId)=true ↔
      y.key=x.key :=
    fun y => by simp [InboundShipment.key]
  refine { h with inbound := ?_ }
  simp only [Store.upsertInbound]
  split
  next e he => exact h.inbound.put_found_key (fun _ => beq_iff_eq) hq he rfl rfl
  next he => exact h.inbound.put_new_key (fun _ => beq_iff_eq) hq he rfl

theorem recordInboundLabels (h : s.Keyed) {account : Uuid} {shipmentId : String}
    {labels : InboundLabels} {now : Instant} {r : InboundShipment × Store}
    (hr : s.recordInboundLabels account shipmentId labels now=some r) : r.2.Keyed := by
  have hq : ∀ y : InboundShipment, (y.accountId==account && y.shipmentId==shipmentId)=true ↔
      y.key=(account, shipmentId) :=
    fun y => by simp [InboundShipment.key]
  unfold Store.recordInboundLabels at hr
  cases he : s.inbound? account shipmentId with
  | none => simp [he] at hr
  | some e =>
    simp only [he, Option.map_some, Option.some.injEq] at hr
    subst hr
    have he' := List.find?_some he
    exact { h with inbound := h.inbound.put_found_key (fun _ => beq_iff_eq) hq he rfl ((hq e).1 he') }

theorem eraseAccount (h : s.Keyed) (account : Uuid) (counts : List (String × Nat)) :
    (s.eraseAccount account counts).1.Keyed :=
  { h with
    accounts := h.accounts.filter _, itemLinks := h.itemLinks.filter _,
    customerLinks := h.customerLinks.filter _, orders := h.orders.filter _,
    lines := h.lines.filter _, stock := h.stock.filter _, labels := h.labels.filter _,
    audit := h.audit.filter _, inbound := h.inbound.filter _ }

theorem foldl_eraseAccount (ids : List Uuid) (acc : Store × List (String × Nat)) (h : acc.1.Keyed) :
    (ids.foldl (fun acc id => acc.1.eraseAccount id acc.2) acc).1.Keyed := by
  induction ids generalizing acc with
  | nil => exact h
  | cons id ids ih => exact ih _ (h.eraseAccount id acc.2)

theorem eraseIdentity (h : s.Keyed) (m : Marketplace) (ext : String) (fresh : Uuid) (now : Instant) :
    (s.eraseIdentity m ext fresh now).2.Keyed := by
  simp only [Store.eraseIdentity]
  split
  next => exact { h with }
  next =>
    have hf := foldl_eraseAccount ((s.accounts.filter fun a =>
      a.marketplace==m && !(Text.trim ext).isEmpty && a.externalId==some (Text.trim ext)).map (·.id))
      (s, []) h
    revert hf
    generalize List.foldl _ _ _=r
    intro hf
    exact { hf with }

end Store.Keyed

end SellerSync
