import Mathlib
import SellerSync.Proofs.Keys
import SellerSync.Service.Basic
/-! Ids handed out by the service, and stores whose rows carry only such ids. -/
namespace SellerSync

namespace Service

/-- The first `N` ids handed out are pairwise different. -/
def Distinct (N : Nat) : Prop := Set.InjOn idOf (Set.Icc 1 N)

/-- One of the first `n` ids handed out. -/
def Issued (n : Nat) (u : Uuid) : Prop := ∃ j, 0<j ∧ j ≤ n ∧ idOf j=u

theorem Issued.mono {n m : Nat} {u : Uuid} (h : Issued n u) (hnm : n ≤ m) : Issued m u :=
  let ⟨j, hj, hjn, hu⟩ := h
  ⟨j, hj, Nat.le_trans hjn hnm, hu⟩

theorem issued_next (n : Nat) : Issued (n+1) (idOf (n+1)) := ⟨n+1, Nat.succ_pos n, Nat.le_refl _, rfl⟩

theorem Issued.ne_next {N n : Nat} {u : Uuid} (hd : Distinct N) (hn : n+1 ≤ N) (h : Issued n u) :
    u≠idOf (n+1) := by
  obtain ⟨j, hj, hjn, rfl⟩ := h
  intro he
  have hj' : j=n+1 := hd ⟨hj, by omega⟩ ⟨by omega, hn⟩ he
  omega

theorem distinct_of_lt {N : Nat} (hN : N<Nat.pow 2 48) : Distinct N := by
  intro i hi j hj h
  have hv := congrArg Uuid.value h
  simp only [idOf] at hv
  have hi' : i<Nat.pow 2 48 := by have := hi.2; omega
  have hj' : j<Nat.pow 2 48 := by have := hj.2; omega
  rw [Nat.mod_eq_of_lt hi', Nat.mod_eq_of_lt hj'] at hv
  omega

/-- One of the first `n` ids handed out, whenever the first `N` ids are distinct and `n ≤ N`. -/
def IssuedUpTo (N n : Nat) (u : Uuid) : Prop := Distinct N → n ≤ N → Issued n u

theorem issuedUpTo_next {N n : Nat} : IssuedUpTo N (n+1) (idOf (n+1)) := fun _ _ => issued_next n

theorem IssuedUpTo.mono {N n m : Nat} {u : Uuid} (h : IssuedUpTo N n u) (hnm : n ≤ m) :
    IssuedUpTo N m u := fun hd hm => (h hd (Nat.le_trans hnm hm)).mono hnm

end Service

namespace Store

/-- Every row of the store carries an id with property `P`. -/
structure Within (P : Uuid → Prop) (s : Store) : Prop where
  accounts : ∀ a∈s.accounts, P a.id
  items : ∀ i∈s.items, P i.id
  itemLinks : ∀ m∈s.itemLinks, P m.id
  customers : ∀ c∈s.customers, P c.id
  customerLinks : ∀ m∈s.customerLinks, P m.id
  orders : ∀ o∈s.orders, P o.id
  lines : ∀ l∈s.lines, P l.id
  stock : ∀ l∈s.stock, P l.id
  labels : ∀ l∈s.labels, P l.id
  audit : ∀ a∈s.audit, P a.id
  quotes : ∀ q∈s.quotes, P q.id
  deletions : ∀ d∈s.deletions, P d.id
  inbound : ∀ x∈s.inbound, P x.id

namespace Within

variable {P Q : Uuid → Prop} {s : Store}

theorem mono (h : s.Within P) (hPQ : ∀ u, P u → Q u) : s.Within Q where
  accounts a ha := hPQ _ (h.accounts a ha)
  items i hi := hPQ _ (h.items i hi)
  itemLinks m hm := hPQ _ (h.itemLinks m hm)
  customers c hc := hPQ _ (h.customers c hc)
  customerLinks m hm := hPQ _ (h.customerLinks m hm)
  orders o ho := hPQ _ (h.orders o ho)
  lines l hl := hPQ _ (h.lines l hl)
  stock l hl := hPQ _ (h.stock l hl)
  labels l hl := hPQ _ (h.labels l hl)
  audit a ha := hPQ _ (h.audit a ha)
  quotes q hq := hPQ _ (h.quotes q hq)
  deletions d hd := hPQ _ (h.deletions d hd)
  inbound x hx := hPQ _ (h.inbound x hx)

theorem upsertAccount (h : s.Within P) (a : ChannelAccount) (now : Instant) (ha : P a.id) :
    (s.upsertAccount a now).2.Within P := by
  refine { h with accounts := ?_ }
  simp only [Store.upsertAccount]
  split
  next e he => exact Rows.all_put h.accounts (h.accounts e (List.mem_of_find?_eq_some he))
  next => exact Rows.all_put h.accounts ha

theorem modifyAccount (h : s.Within P) {id : Uuid} {g : ChannelAccount → ChannelAccount}
    {r : ChannelAccount × Store} (hm : s.modifyAccount id g=.ok r) (hg : ∀ a, (g a).id=a.id) :
    r.2.Within P := by
  unfold Store.modifyAccount at hm
  split at hm
  next => contradiction
  next a ha =>
    have hai : a.id=id := by simpa using List.find?_some ha
    cases hm
    refine { h with accounts := Rows.all_map h.accounts fun y hy => ?_ }
    split
    next hyi => rwa [hg, hai, ← beq_iff_eq.1 hyi]
    next => exact hy

theorem applyTokenUpdate (h : s.Within P) {id : Uuid} {u : TokenUpdate} {now : Instant}
    {r : ChannelAccount × Store} (hm : s.applyTokenUpdate id u now=.ok r) : r.2.Within P :=
  h.modifyAccount hm fun a => by cases u.refreshToken <;> rfl

theorem markSynced (h : s.Within P) {id : Uuid} {at_ : Instant} {s' : Store}
    (hm : s.markSynced id at_=.ok s') : s'.Within P := by
  unfold Store.markSynced at hm
  cases hr : s.modifyAccount id fun a => { a with lastSyncedAt := some at_ } with
  | error => simp [hr, Except.map] at hm
  | ok r =>
    simp only [hr, Except.map, Except.ok.injEq] at hm
    exact hm ▸ h.modifyAccount hr fun _ => rfl

theorem setAccountStatus (h : s.Within P) {id : Uuid} {st : AccountStatus} {now : Instant}
    {s' : Store} (hm : s.setAccountStatus id st now=.ok s') : s'.Within P := by
  unfold Store.setAccountStatus at hm
  cases hr : s.modifyAccount id fun a => { a with status := st, updatedAt := now } with
  | error => simp [hr, Except.map] at hm
  | ok r =>
    simp only [hr, Except.map, Except.ok.injEq] at hm
    exact hm ▸ h.modifyAccount hr fun _ => rfl

theorem deleteAccount (h : s.Within P) {id seller : Uuid} {r : Bool × Store}
    (hm : s.deleteAccount id seller=.ok r) : r.2.Within P := by
  unfold Store.deleteAccount at hm
  split at hm
  next => cases hm; exact h
  next a _ =>
    split at hm
    next => contradiction
    next => cases hm; exact { h with accounts := Rows.all_filter h.accounts _ }

theorem upsertItem (h : s.Within P) {seller : Uuid} {sku title : String} {fresh : Uuid}
    (now : Instant) (hf : P fresh) : (s.upsertItem seller sku title fresh now).2.Within P := by
  unfold Store.upsertItem
  split
  next e he =>
    exact { h with items := Rows.all_put h.items (h.items e (List.mem_of_find?_eq_some he)) }
  next => exact { h with items := Rows.all_append h.items hf }

theorem upsertItemLink (h : s.Within P) (account : ChannelAccount) (link : NewItemLink)
    {fresh : Uuid} (now : Instant) (hf : P fresh) :
    (s.upsertItemLink account link fresh now).2.Within P := by
  refine { h with itemLinks := ?_ }
  simp only [Store.upsertItemLink]
  split
  next e he => exact Rows.all_put h.itemLinks (h.itemLinks e (List.mem_of_find?_eq_some he))
  next => exact Rows.all_put h.itemLinks hf

theorem touchItemLink (h : s.Within P) (id : Uuid) (now : Instant) :
    (s.touchItemLink id now).Within P :=
  { h with itemLinks := Rows.all_map h.itemLinks fun y hy => by split <;> exact hy }

theorem resolveCustomer (h : s.Within P) {seller account : Uuid} {ext : Option String}
    {cand : CustomerCandidate} {fresh : Uuid} {now : Instant} (hf : P fresh) :
    (s.resolveCustomer seller account ext cand fresh now).2.Within P := by
  simp only [Store.resolveCustomer]
  split
  next =>
    refine { h with customers := Rows.all_map h.customers fun y hy => ?_ }
    cases cand.address with
    | none => exact hy
    | some addr => dsimp only; split <;> exact hy
  next => exact { h with customers := Rows.all_append h.customers hf }

theorem upsertCustomerLink (h : s.Within P) (account : ChannelAccount) (customer : Uuid)
    (ext : String) (raw : Json) {fresh : Uuid} (now : Instant) (hf : P fresh) :
    (s.upsertCustomerLink account customer ext raw fresh now).2.Within P := by
  refine { h with customerLinks := ?_ }
  simp only [Store.upsertCustomerLink]
  split
  next e he =>
    exact Rows.all_put h.customerLinks (h.customerLinks e (List.mem_of_find?_eq_some he))
  next => exact Rows.all_put h.customerLinks hf

theorem upsertOrder (h : s.Within P) (o : StoredOrder) (ho : P o.id) :
    (s.upsertOrder o).2.Within P := by
  refine { h with orders := ?_ }
  simp only [Store.upsertOrder]
  split
  next e he => exact Rows.all_put h.orders (h.orders e (List.mem_of_find?_eq_some he))
  next => exact Rows.all_put h.orders ho

theorem upsertLine (h : s.Within P) (l : StoredLine) (hl : P l.id) : (s.upsertLine l).2.Within P := by
  simp only [Store.upsertLine]
  split
  next e he =>
    have hmem : e∈s.lines := by
      cases hext : l.externalLineId with
      | none => simp [hext] at he
      | some ext => simp only [hext, Option.bind_some] at he; exact List.mem_of_find?_eq_some he
    exact { h with lines := Rows.all_put h.lines (h.lines e hmem) }
  next => exact { h with lines := Rows.all_append h.lines hl }

theorem upsertStock (h : s.Within P) (item account : Uuid) (location : Option String)
    (available : Int) {fresh : Uuid} (now : Instant) (hf : P fresh) :
    (s.upsertStock item account location available fresh now).2.Within P := by
  refine { h with stock := ?_ }
  simp only [Store.upsertStock]
  split
  next e he => exact Rows.all_put h.stock (h.stock e (List.mem_of_find?_eq_some he))
  next => exact Rows.all_put h.stock hf

theorem upsertLabel (h : s.Within P) (l : ShippingLabel) (hl : P l.id) :
    (s.upsertLabel l).2.Within P := by
  refine { h with labels := ?_ }
  simp only [Store.upsertLabel]
  split
  next e he => exact Rows.all_put h.labels (h.labels e (List.mem_of_find?_eq_some he))
  next => exact Rows.all_put h.labels hl

theorem upsertAudit (h : s.Within P) (a : AuditLine) (ha : P a.id) :
    (s.upsertAudit a).2.Within P := by
  refine { h with audit := ?_ }
  simp only [Store.upsertAudit]
  split
  next e he => exact Rows.all_put h.audit (h.audit e (List.mem_of_find?_eq_some he))
  next => exact Rows.all_put h.audit ha

theorem upsertQuote (h : s.Within P) (q : CachedQuote) (hq : P q.id) :
    (s.upsertQuote q).2.Within P := by
  refine { h with quotes := ?_ }
  simp only [Store.upsertQuote]
  split
  next e he => exact Rows.all_put h.quotes (h.quotes e (List.mem_of_find?_eq_some he))
  next => exact Rows.all_put h.quotes hq

theorem upsertInbound (h : s.Within P) (x : InboundShipment) (now : Instant) (hx : P x.id) :
    (s.upsertInbound x now).2.Within P := by
  refine { h with inbound := ?_ }
  simp only [Store.upsertInbound]
  split
  next e he => exact Rows.all_put h.inbound (h.inbound e (List.mem_of_find?_eq_some he))
  next => exact Rows.all_put h.inbound hx

theorem recordInboundLabels (h : s.Within P) {account : Uuid} {shipmentId : String}
    {labels : InboundLabels} {now : Instant} {r : InboundShipment × Store}
    (hr : s.recordInboundLabels account shipmentId labels now=some r) : r.2.Within P := by
  unfold Store.recordInboundLabels at hr
  cases he : s.inbound? account shipmentId with
  | none => simp [he] at hr
  | some e =>
    simp only [he, Option.map_some, Option.some.injEq] at hr
    subst hr
    exact { h with inbound := Rows.all_put h.inbound (h.inbound e (List.mem_of_find?_eq_some he)) }

theorem eraseAccount (h : s.Within P) (account : Uuid) (counts : List (String × Nat)) :
    (s.eraseAccount account counts).1.Within P :=
  { h with
    accounts := Rows.all_filter h.accounts _, itemLinks := Rows.all_filter h.itemLinks _,
    customerLinks := Rows.all_filter h.customerLinks _, orders := Rows.all_filter h.orders _,
    lines := Rows.all_filter h.lines _, stock := Rows.all_filter h.stock _,
    labels := Rows.all_filter h.labels _, audit := Rows.all_filter h.audit _,
    inbound := Rows.all_filter h.inbound _ }

theorem foldl_eraseAccount (ids : List Uuid) (acc : Store × List (String × Nat))
    (h : acc.1.Within P) : (ids.foldl (fun acc id => acc.1.eraseAccount id acc.2) acc).1.Within P := by
  induction ids generalizing acc with
  | nil => exact h
  | cons id ids ih => exact ih _ (h.eraseAccount id acc.2)

theorem eraseIdentity (h : s.Within P) (m : Marketplace) (ext : String) {fresh : Uuid}
    (now : Instant) (hf : P fresh) : (s.eraseIdentity m ext fresh now).2.Within P := by
  simp only [Store.eraseIdentity]
  split
  next => exact { h with deletions := Rows.all_append h.deletions hf }
  next =>
    have hw := foldl_eraseAccount ((s.accounts.filter fun a =>
      a.marketplace==m && !(Text.trim ext).isEmpty && a.externalId==some (Text.trim ext)).map (·.id))
      (s, []) h
    revert hw
    generalize List.foldl _ _ _=r
    intro hw
    exact { hw with deletions := Rows.all_append hw.deletions hf }

end Within

/-- After `n` ids were handed out: every row carries one of them and every table is keyed. -/
structure Sound (n : Nat) (s : Store) : Prop where
  keyed : s.Keyed
  issued : s.Within (Service.Issued n)

/-- Sound whenever the first `N` ids are distinct and at most `N` were handed out. -/
def SoundUpTo (N n : Nat) (s : Store) : Prop := Service.Distinct N → n ≤ N → s.Sound n

namespace SoundUpTo

open Service

variable {N n : Nat} {s : Store}

theorem empty : ({} : Store).SoundUpTo N n := by
  intro _ _
  refine ⟨?_, ?_⟩
  · constructor <;> exact Rows.Keyed.nil
  · constructor <;> intro _ h <;> cases h

theorem succ (h : s.SoundUpTo N n) : s.SoundUpTo N (n+1) := fun hd hn =>
  have h' := h hd (by omega)
  ⟨h'.keyed, h'.issued.mono fun _ hu => hu.mono (Nat.le_succ n)⟩

theorem issuedUpTo_of_mem_accounts (h : s.SoundUpTo N n) {a : ChannelAccount}
    (ha : a ∈ s.accounts) : IssuedUpTo N n a.id := fun hd hn => (h hd hn).issued.accounts a ha

theorem issuedUpTo_of_mem_audit (h : s.SoundUpTo N n) {a : AuditLine} (ha : a ∈ s.audit) :
    IssuedUpTo N n a.id := fun hd hn => (h hd hn).issued.audit a ha

theorem upsertAccount (h : s.SoundUpTo N n) {a : ChannelAccount} {now : Instant}
    (ha : IssuedUpTo N n a.id) : (s.upsertAccount a now).2.SoundUpTo N n := fun hd hn =>
  have h' := h hd hn
  ⟨h'.keyed.upsertAccount a now, h'.issued.upsertAccount a now (ha hd hn)⟩

theorem applyTokenUpdate (h : s.SoundUpTo N n) {id : Uuid} {u : TokenUpdate} {now : Instant}
    {r : ChannelAccount × Store} (hm : s.applyTokenUpdate id u now=.ok r) : r.2.SoundUpTo N n :=
  fun hd hn =>
  have h' := h hd hn
  ⟨h'.keyed.applyTokenUpdate hm, h'.issued.applyTokenUpdate hm⟩

theorem markSynced (h : s.SoundUpTo N n) {id : Uuid} {at_ : Instant} {s' : Store}
    (hm : s.markSynced id at_=.ok s') : s'.SoundUpTo N n := fun hd hn =>
  have h' := h hd hn
  ⟨h'.keyed.markSynced hm, h'.issued.markSynced hm⟩

theorem setAccountStatus (h : s.SoundUpTo N n) {id : Uuid} {st : AccountStatus} {now : Instant}
    {s' : Store} (hm : s.setAccountStatus id st now=.ok s') : s'.SoundUpTo N n := fun hd hn =>
  have h' := h hd hn
  ⟨h'.keyed.setAccountStatus hm, h'.issued.setAccountStatus hm⟩

theorem deleteAccount (h : s.SoundUpTo N n) {id seller : Uuid} {r : Bool × Store}
    (hm : s.deleteAccount id seller=.ok r) : r.2.SoundUpTo N n := fun hd hn =>
  have h' := h hd hn
  ⟨h'.keyed.deleteAccount hm, h'.issued.deleteAccount hm⟩

theorem upsertItem (h : s.SoundUpTo N n) {seller : Uuid} {sku title : String} {now : Instant} :
    (s.upsertItem seller sku title (idOf (n+1)) now).2.SoundUpTo N (n+1) := fun hd hn =>
  have h' := h hd (by omega)
  ⟨h'.keyed.upsertItem now fun i hi => (h'.issued.items i hi).ne_next hd hn,
    (h'.issued.mono fun _ hu => hu.mono (Nat.le_succ n)).upsertItem now (issued_next n)⟩

theorem upsertItemLink (h : s.SoundUpTo N n) {account : ChannelAccount} {link : NewItemLink}
    {now : Instant} : (s.upsertItemLink account link (idOf (n+1)) now).2.SoundUpTo N (n+1) :=
  fun hd hn =>
  have h' := h.succ hd hn
  ⟨h'.keyed.upsertItemLink account link _ now,
    h'.issued.upsertItemLink account link now (issued_next n)⟩

theorem touchItemLink (h : s.SoundUpTo N n) {id : Uuid} {now : Instant} :
    (s.touchItemLink id now).SoundUpTo N n := fun hd hn =>
  have h' := h hd hn
  ⟨h'.keyed.touchItemLink id now, h'.issued.touchItemLink id now⟩

theorem resolveCustomer (h : s.SoundUpTo N n) {seller account : Uuid} {ext : Option String}
    {cand : CustomerCandidate} {now : Instant} :
    (s.resolveCustomer seller account ext cand (idOf (n+1)) now).2.SoundUpTo N (n+1) :=
  fun hd hn =>
  have h' := h hd (by omega)
  ⟨h'.keyed.resolveCustomer fun c hc => (h'.issued.customers c hc).ne_next hd hn,
    (h'.issued.mono fun _ hu => hu.mono (Nat.le_succ n)).resolveCustomer (issued_next n)⟩

theorem upsertCustomerLink (h : s.SoundUpTo N n) {account : ChannelAccount} {customer : Uuid}
    {ext : String} {raw : Json} {now : Instant} :
    (s.upsertCustomerLink account customer ext raw (idOf (n+1)) now).2.SoundUpTo N (n+1) :=
  fun hd hn =>
  have h' := h.succ hd hn
  ⟨h'.keyed.upsertCustomerLink account customer ext raw _ now,
    h'.issued.upsertCustomerLink account customer ext raw now (issued_next n)⟩

theorem upsertOrder (h : s.SoundUpTo N n) {o : StoredOrder} (ho : o.id=idOf (n+1)) :
    (s.upsertOrder o).2.SoundUpTo N (n+1) := fun hd hn =>
  have h' := h.succ hd hn
  ⟨h'.keyed.upsertOrder o, h'.issued.upsertOrder o (ho ▸ issued_next n)⟩

theorem upsertLine (h : s.SoundUpTo N n) {l : StoredLine} (hl : l.id=idOf (n+1)) :
    (s.upsertLine l).2.SoundUpTo N (n+1) := fun hd hn =>
  have h' := h hd (by omega)
  ⟨h'.keyed.upsertLine l fun y hy => hl ▸ (h'.issued.lines y hy).ne_next hd hn,
    (h'.issued.mono fun _ hu => hu.mono (Nat.le_succ n)).upsertLine l (hl ▸ issued_next n)⟩

theorem upsertStock (h : s.SoundUpTo N n) {item account : Uuid} {location : Option String}
    {available : Int} {now : Instant} :
    (s.upsertStock item account location available (idOf (n+1)) now).2.SoundUpTo N (n+1) :=
  fun hd hn =>
  have h' := h.succ hd hn
  ⟨h'.keyed.upsertStock item account location available _ now,
    h'.issued.upsertStock item account location available now (issued_next n)⟩

theorem upsertLabel (h : s.SoundUpTo N n) {l : ShippingLabel} (hl : l.id=idOf (n+1)) :
    (s.upsertLabel l).2.SoundUpTo N (n+1) := fun hd hn =>
  have h' := h.succ hd hn
  ⟨h'.keyed.upsertLabel l, h'.issued.upsertLabel l (hl ▸ issued_next n)⟩

theorem upsertAudit (h : s.SoundUpTo N n) {a : AuditLine} (ha : IssuedUpTo N n a.id) :
    (s.upsertAudit a).2.SoundUpTo N n := fun hd hn =>
  have h' := h hd hn
  ⟨h'.keyed.upsertAudit a, h'.issued.upsertAudit a (ha hd hn)⟩

theorem upsertQuote (h : s.SoundUpTo N n) {q : CachedQuote} (hq : q.id=idOf (n+1)) :
    (s.upsertQuote q).2.SoundUpTo N (n+1) := fun hd hn =>
  have h' := h.succ hd hn
  ⟨h'.keyed.upsertQuote q, h'.issued.upsertQuote q (hq ▸ issued_next n)⟩

theorem upsertInbound (h : s.SoundUpTo N n) {x : InboundShipment} {now : Instant}
    (hx : x.id=idOf (n+1)) : (s.upsertInbound x now).2.SoundUpTo N (n+1) := fun hd hn =>
  have h' := h.succ hd hn
  ⟨h'.keyed.upsertInbound x now, h'.issued.upsertInbound x now (hx ▸ issued_next n)⟩

theorem recordInboundLabels (h : s.SoundUpTo N n) {account : Uuid} {shipmentId : String}
    {labels : InboundLabels} {now : Instant} {x : InboundShipment} {s' : Store}
    (hr : s.recordInboundLabels account shipmentId labels now=some (x, s')) : s'.SoundUpTo N n :=
  fun hd hn =>
  have h' := h hd hn
  ⟨h'.keyed.recordInboundLabels hr, h'.issued.recordInboundLabels hr⟩

theorem eraseIdentity (h : s.SoundUpTo N n) {m : Marketplace} {ext : String} {now : Instant} :
    (s.eraseIdentity m ext (idOf (n+1)) now).2.SoundUpTo N (n+1) := fun hd hn =>
  have h' := h.succ hd hn
  ⟨h'.keyed.eraseIdentity m ext _ now, h'.issued.eraseIdentity m ext now (issued_next n)⟩

end SoundUpTo

end Store

/-- The service's store is sound for the ids it has handed out, as long as the first `N` ids
are distinct. -/
def Service.Good (N : Nat) (σ : Service) : Prop := σ.store.SoundUpTo N σ.issued

end SellerSync
