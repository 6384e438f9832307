import SellerSync.Proofs.Erasure
import SellerSync.Proofs.Reachable
/-! What an erasure reaches. Erasing an external identity looks its victims up among the accounts the
store holds: every row written through such an account goes, and so do the lines of its orders. -/
namespace SellerSync

namespace Store

/-- The ids of the stored accounts of `m` known by the trimmed `x`; none for a blank id. -/
def erasureTargets (s : Store) (m : Marketplace) (x : String) : List Uuid :=
  (s.accounts.filter fun a =>
    a.marketplace == m && !(Text.trim x).isEmpty && a.externalId == some (Text.trim x)).map (·.id)

variable {s : Store} {ids : List Uuid}

theorem eraseIdentity_snd (s : Store) (m : Marketplace) (x : String) (fresh : Uuid)
    (now : Instant) : ∃ req, (s.eraseIdentity m x fresh now).2=
      { s.withoutAccounts (s.erasureTargets m x) with deletions := s.deletions ++ [req] } := by
  unfold eraseIdentity erasureTargets
  dsimp only
  split
  next h =>
    rw [List.isEmpty_iff.1 h, withoutAccounts_nil]
    exact ⟨_, rfl⟩
  next h =>
    rw [foldl_eraseAccount _ fun he => h (List.isEmpty_iff.2 he)]
    exact ⟨_, rfl⟩

theorem mem_erasureTargets {m : Marketplace} {x : String} {a : ChannelAccount}
    (ha : a∈s.accounts) (hm : a.marketplace=m) (hx : Text.trim x≠"")
    (he : a.externalId=some (Text.trim x)) : a.id∈s.erasureTargets m x := by
  refine List.mem_map.2 ⟨a, List.mem_filter.2 ⟨ha, ?_⟩, rfl⟩
  simp [hm, he, hx]

theorem not_mem_erasureTargets {m : Marketplace} {x : String} {id : Uuid}
    (h : ∀ a∈s.accounts, a.id≠id) : id∉s.erasureTargets m x := by
  intro hid
  obtain ⟨a, ha, rfl⟩ := List.mem_map.1 hid
  exact h a (List.mem_filter.1 ha).1 rfl

@[simp] theorem mem_withoutAccounts_orders {o : StoredOrder} :
    o∈(s.withoutAccounts ids).orders ↔ o∈s.orders ∧ o.accountId∉ids := by
  simp [withoutAccounts]

@[simp] theorem mem_withoutAccounts_audit {x : AuditLine} :
    x∈(s.withoutAccounts ids).audit ↔ x∈s.audit ∧ x.accountId∉ids := by
  simp [withoutAccounts]

@[simp] theorem mem_withoutAccounts_stock {l : StockLevel} :
    l∈(s.withoutAccounts ids).stock ↔ l∈s.stock ∧ l.accountId∉ids := by
  simp [withoutAccounts]

@[simp] theorem mem_withoutAccounts_inbound {y : InboundShipment} :
    y∈(s.withoutAccounts ids).inbound ↔ y∈s.inbound ∧ y.accountId∉ids := by
  simp [withoutAccounts]

@[simp] theorem mem_withoutAccounts_itemLinks {l : ItemLink} :
    l∈(s.withoutAccounts ids).itemLinks ↔ l∈s.itemLinks ∧ l.accountId∉ids := by
  simp [withoutAccounts]

@[simp] theorem mem_withoutAccounts_customerLinks {l : CustomerLink} :
    l∈(s.withoutAccounts ids).customerLinks ↔ l∈s.customerLinks ∧ l.accountId∉ids := by
  simp [withoutAccounts]

theorem accountId_not_mem_of_mem_withoutAccounts_labels {l : ShippingLabel}
    (h : l∈(s.withoutAccounts ids).labels) : l.accountId∉ids := by
  simp only [withoutAccounts, List.mem_filter, Bool.and_eq_true, List.contains_eq_mem,
    Bool.not_eq_eq_eq_not, Bool.not_true, decide_eq_false_iff_not] at h
  exact h.2.1

theorem orderId_ne_of_mem_withoutAccounts_lines {l : StoredLine}
    (h : l∈(s.withoutAccounts ids).lines) {o : StoredOrder} (ho : o∈s.orders)
    (hid : o.accountId∈ids) : l.orderId≠o.id := by
  simp only [withoutAccounts, List.mem_filter, List.contains_eq_mem, Bool.not_eq_eq_eq_not,
    Bool.not_true, decide_eq_false_iff_not] at h
  intro he
  exact h.2 (mem_orderIdsOf.2 ⟨o, ho, hid, he.symm⟩)

/-- Erasing reaches exactly the accounts the store still holds. After erasing `x` on `m`, no row
carries the id of a stored account of `m` known by the trimmed `x`: no order, line of one of its
orders, label, audit line, stock level, inbound shipment or link. Every order, audit line, stock
level, inbound shipment and link written through an account id that the store no longer holds
stays as it was. -/
theorem eraseIdentity_reach (s : Store) (m : Marketplace) (x : String) (fresh : Uuid)
    (now : Instant) :
    let s' := (s.eraseIdentity m x fresh now).2
    (∀ a∈s.accounts, a.marketplace=m → Text.trim x≠"" → a.externalId=some (Text.trim x) →
      (∀ o∈s'.orders, o.accountId≠a.id) ∧
      (∀ l∈s'.lines, ∀ o∈s.orders, o.accountId=a.id → l.orderId≠o.id) ∧
      (∀ l∈s'.labels, l.accountId≠a.id) ∧ (∀ y∈s'.audit, y.accountId≠a.id) ∧
      (∀ l∈s'.stock, l.accountId≠a.id) ∧ (∀ y∈s'.inbound, y.accountId≠a.id) ∧
      (∀ l∈s'.itemLinks, l.accountId≠a.id) ∧ (∀ l∈s'.customerLinks, l.accountId≠a.id)) ∧
    (∀ id, (∀ a∈s.accounts, a.id≠id) →
      (∀ o∈s.orders, o.accountId=id → o∈s'.orders) ∧ (∀ y∈s.audit, y.accountId=id → y∈s'.audit) ∧
      (∀ l∈s.stock, l.accountId=id → l∈s'.stock) ∧
      (∀ y∈s.inbound, y.accountId=id → y∈s'.inbound) ∧
      (∀ l∈s.itemLinks, l.accountId=id → l∈s'.itemLinks) ∧
      (∀ l∈s.customerLinks, l.accountId=id → l∈s'.customerLinks)) := by
  obtain ⟨req, hs⟩ := eraseIdentity_snd s m x fresh now
  dsimp only
  rw [hs]
  refine ⟨fun a ha hm hx he => ?_, fun id hid => ?_⟩
  · -- the account is a target, so every row carrying its id is filtered out
    have ht := mem_erasureTargets ha hm hx he
    refine ⟨?_, ?_, ?_, ?_, ?_, ?_, ?_, ?_⟩
    · intro o ho he'; exact (mem_withoutAccounts_orders.1 ho).2 (he' ▸ ht)
    · intro l hl o ho he'; exact orderId_ne_of_mem_withoutAccounts_lines hl ho (he' ▸ ht)
    · intro l hl he'; exact accountId_not_mem_of_mem_withoutAccounts_labels hl (he' ▸ ht)
    · intro y hy he'; exact (mem_withoutAccounts_audit.1 hy).2 (he' ▸ ht)
    · intro l hl he'; exact (mem_withoutAccounts_stock.1 hl).2 (he' ▸ ht)
    · intro y hy he'; exact (mem_withoutAccounts_inbound.1 hy).2 (he' ▸ ht)
    · intro l hl he'; exact (mem_withoutAccounts_itemLinks.1 hl).2 (he' ▸ ht)
    · intro l hl he'; exact (mem_withoutAccounts_customerLinks.1 hl).2 (he' ▸ ht)
  · -- an id no stored account carries is no target, so the filters keep its rows
    have ht := not_mem_erasureTargets (m := m) (x := x) hid
    refine ⟨?_, ?_, ?_, ?_, ?_, ?_⟩ <;> intro r hr he' <;> simp [hr, he', ht]

end Store

/-- A shop's order synced before its account was disconnected survives the erasure of the
shop's identity: the erasure finds no account and the order keeps the shop account's id. -/
theorem erase_after_disconnect_keeps_order :
    let c : Context := ⟨default, RetryPolicy.immediate 3, Span.ofSeconds 60, ⟨0, 0⟩,
      Network.unreachable⟩
    let a := ChannelAccount.new (Service.idOf 1) ⟨7⟩ .shopify (some "a.myshopify.com") ⟨0, 0⟩
    let A : ChannelAccount := { a with updatedAt := Service.readingOf c.origin 1 }
    let o : IncomingOrder :=
      { externalOrderId := "1001", status := "paid", currency := none, totals := {},
        placedAt := none, closedAt := none, marketplaceId := none, fulfillmentChannel := none,
        customer := some { email := some "b@example.com" },
        lines := [{ externalLineId := some "10", sku := some "SKU-1", quantity := 1 }],
        shipTo := {}, fulfillmentCost := none, labelHint := false, raw := .null }
    let σ₀ := (Operation.registerAccount a).apply c {}
    let σ₁ := (Operation.applyOrder A o .poll).apply c σ₀
    let σ₂ := (Operation.disconnect A.id ⟨7⟩).apply c σ₁
    let σ₃ := (Operation.erase .shopify "a.myshopify.com").apply c σ₂
    Reachable σ₃ ∧ σ₀.store.accounts=[A] ∧ A.marketplace=.shopify ∧
      A.externalId=some (Text.trim "a.myshopify.com") ∧ ∃ r∈σ₃.store.orders, r.accountId=A.id := by
  intro c a A o σ₀ σ₁ σ₂ σ₃
  refine ⟨.step c _ (.step c _ (.step c _ (.step c _ .empty))), rfl, rfl, by decide, ?_⟩
  decide +kernel

end SellerSync
