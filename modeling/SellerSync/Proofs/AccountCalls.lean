import Mathlib
import SellerSync.Proofs.Apartness
/-! The store calls an account makes. -/
namespace SellerSync.Store

/-- A row an account learnt of from an answer: one of its orders, one of its seller's customers
or one of its listing links, by id. -/
inductive Known where
  | order (id : Uuid)
  | customer (id : Uuid)
  | link (id : Uuid)

namespace Known

/-- The row the account learnt of is in the store, in the account's part. -/
def Holds (g : ChannelAccount) (s : Store) : Known → Prop
  | order id => ∃ o∈s.orders, o.accountId=g.id ∧ o.id=id
  | customer id => ∃ c∈s.customers, c.sellerId=g.sellerId ∧ c.id=id
  | link id => ∃ m∈s.itemLinks, m.accountId=g.id ∧ m.id=id

variable {g k : ChannelAccount} {F : Uuid → Prop} {s s' : Store}

/-- What an account knows stays true through every step, its own or another account's. -/
theorem Holds.step {x : Known} (hx : x.Holds g s) (hs : Step k F s s') : x.Holds g s' := by
  cases x with
  | order id =>
    obtain ⟨o, ho, hoa, hoi⟩ := hx
    obtain ⟨o', ho', hid, hacc⟩ := hs.ordersKept o ho
    exact ⟨o', ho', hacc.trans hoa, hid.trans hoi⟩
  | customer id =>
    obtain ⟨c, hc, hcs, hci⟩ := hx
    obtain ⟨c', hc', hid, hsel⟩ := hs.customersKept c hc
    exact ⟨c', hc', hsel.trans hcs, hid.trans hci⟩
  | link id =>
    obtain ⟨m, hm, hma, hmi⟩ := hx
    obtain ⟨m', hm', hid, hacc⟩ := hs.itemLinksKept m hm
    exact ⟨m', hm', hacc.trans hma, hid.trans hmi⟩

end Known

theorem mem_findItemLink {s : Store} {account : Uuid} {ext : String} {m : ItemLink}
    (hm : s.findItemLink account ext=some m) : m∈s.itemLinks ∧ m.accountId=account := by
  have hown : m∈s.itemLinks.filter (·.accountId == account) := by
    simp only [findItemLink, Option.or_eq_some_iff] at hm
    rcases hm with hm | ⟨-, hm | ⟨-, hm⟩⟩ <;> exact List.mem_of_find?_eq_some hm
  have hmem := List.mem_filter.1 hown
  exact ⟨hmem.1, by simpa using hmem.2⟩

namespace Call

/-- The call is one the account makes: for its seller and its own id, writing new rows under
ids it draws from `F`, and naming only an order, customer or listing link it knows. -/
def Fits (g : ChannelAccount) (F : Uuid → Prop) (known : List Known) : Call → Prop
  | resolveCustomer seller account _ _ fresh _ => seller=g.sellerId ∧ account=g.id ∧ F fresh
  | upsertCustomerLink a customer _ _ fresh _ => a.id=g.id ∧ F fresh ∧ .customer customer∈known
  | upsertOrder o => o.accountId=g.id ∧ F o.id
  | findItemLink account _ => account=g.id
  | touchItemLink id _ => .link id∈known
  | upsertItem seller _ _ fresh _ => seller=g.sellerId ∧ F fresh
  | upsertItemLink a _ fresh _ => a.id=g.id ∧ F fresh
  | upsertLine l => .order l.orderId∈known ∧ F l.id
  | hasLabelForOrder _ => True
  | upsertAudit x => x.sellerId=g.sellerId ∧ F x.id
  | upsertStock _ account _ _ fresh _ => account=g.id ∧ F fresh
  | upsertLabel _ => False
  | auditForOrder _ => False

/-- What the account learns from a call's answer: the customer resolved, the order written, the
link found. -/
def learns : (c : Call) → c.Result → List Known
  | resolveCustomer .., id => [.customer id]
  | upsertOrder _, o => [.order o.id]
  | findItemLink .., m => (m.map fun m => Known.link m.id).toList
  | _, _ => []

variable {g : ChannelAccount} {F : Uuid → Prop} {known known' : List Known} {s : Store} {c : Call}

theorem Fits.mono (hc : c.Fits g F known) (hk : ∀ x∈known, x∈known') : c.Fits g F known' := by
  cases c <;> simp_all [Fits]

section Fitting

variable (hc : c.Fits g F known) (hk : ∀ x∈known, x.Holds g s) (hg : s.Apart g F)
include hc hk hg

/-- A fitting call made on the account's part answers as on the whole store and leaves the part
the whole store is left with. -/
theorem run_part : c.run (part g s)=((c.run s).1, part g (c.run s).2) := by
  cases c with
  | resolveCustomer seller account ext cand fresh now =>
    obtain ⟨rfl, rfl, -⟩ := hc
    exact resolveCustomer_part hg
  | upsertCustomerLink a customer ext raw fresh now => exact upsertCustomerLink_part hg hc.1 hc.2.1
  | upsertOrder o => exact upsertOrder_part hg hc.1 hc.2
  | findItemLink account ext =>
    subst hc
    show ((part g s).findItemLink g.id ext, part g s)=(s.findItemLink g.id ext, part g s)
    rw [findItemLink_part]
  | touchItemLink id now =>
    show ((), (part g s).touchItemLink id now)=((), part g (s.touchItemLink id now))
    rw [touchItemLink_part]
  | upsertItem seller sku title fresh now =>
    obtain ⟨rfl, -⟩ := hc
    exact upsertItem_part hg
  | upsertItemLink a link fresh now => exact upsertItemLink_part hg hc.1 hc.2
  | upsertLine l => exact upsertLine_part hg (hk _ hc.1)
  | hasLabelForOrder order => rfl
  | upsertAudit x => exact upsertAudit_part hg hc.1 hc.2
  | upsertStock item account location available fresh now =>
    obtain ⟨rfl, hF⟩ := hc
    exact upsertStock_part hg hF
  | upsertLabel _ | auditForOrder _ => exact hc.elim

/-- A fitting call is a step of the account. -/
theorem step : Step g F s (c.run s).2 := by
  cases c with
  | resolveCustomer seller account ext cand fresh now =>
    obtain ⟨rfl, rfl, hF⟩ := hc
    exact step_resolveCustomer hg hF
  | upsertCustomerLink a customer ext raw fresh now =>
    exact step_upsertCustomerLink hg hc.1 hc.2.1 (hk _ hc.2.2)
  | upsertOrder o => exact step_upsertOrder hg hc.1 hc.2
  | findItemLink account ext => exact Step.refl
  | touchItemLink id now => exact step_touchItemLink hg (hk _ hc)
  | upsertItem seller sku title fresh now =>
    obtain ⟨rfl, hF⟩ := hc
    exact step_upsertItem hg hF
  | upsertItemLink a link fresh now => exact step_upsertItemLink hg hc.1 hc.2
  | upsertLine l => exact step_upsertLine hg (hk _ hc.1) hc.2
  | hasLabelForOrder order => exact Step.refl
  | upsertAudit x => exact step_upsertAudit hg hc.1 hc.2
  | upsertStock item account location available fresh now =>
    obtain ⟨rfl, hF⟩ := hc
    exact step_upsertStock hg hF
  | upsertLabel _ | auditForOrder _ => exact hc.elim

omit hk in
/-- What the account learns from a fitting call's answer holds after the call. -/
theorem learns_hold : ∀ x∈c.learns (c.run s).1, x.Holds g (c.run s).2 := by
  cases c with
  | resolveCustomer seller account ext cand fresh now =>
    obtain ⟨rfl, rfl, -⟩ := hc
    simp only [learns, run, List.mem_singleton, forall_eq]
    cases hm : s.customerMatch g.sellerId g.id ext cand with
    | none =>
      obtain ⟨c, hid, hcs, -, -, hr⟩ := resolveCustomer_of_none fresh now hm
      rw [hr]
      exact ⟨c, List.mem_append_right _ (List.mem_singleton_self c), hcs, hid⟩
    | some i =>
      obtain ⟨c, hc, hcs, hci⟩ := customerMatch_owned hg hm
      obtain ⟨f, hf, hr⟩ := resolveCustomer_of_match fresh now hm
      rw [hr]
      exact ⟨f c, List.mem_map_of_mem hc, (hf c).2.1.trans hcs, (hf c).1.trans hci⟩
  | upsertOrder o =>
    simp only [learns, run, List.mem_singleton, forall_eq, Known.Holds, Store.upsertOrder]
    split <;> exact ⟨_, Rows.mem_put _ _ _, hc.1, rfl⟩
  | findItemLink account ext =>
    subst hc
    intro x hx
    simp only [learns, run, Option.mem_toList, Option.map_eq_some_iff] at hx
    obtain ⟨m, hm, rfl⟩ := hx
    obtain ⟨hm, hma⟩ := mem_findItemLink hm
    exact ⟨m, hm, hma, rfl⟩
  | _ => simp [learns]

theorem knows_after : ∀ x∈c.learns (c.run s).1 ++ known, x.Holds g (c.run s).2 := fun x hx =>
  (List.mem_append.1 hx).elim (learns_hold hc hg x) fun hx => (hk x hx).step (step hc hk hg)

end Fitting

end Call

end SellerSync.Store
