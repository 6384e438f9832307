import Mathlib
import SellerSync.Proofs.Webhooks
/-! What `Pipeline.applyStock` does with one stock observation, for every store. -/

namespace SellerSync

open SyncM Service

namespace Rows

variable {α ι κ : Type} {f : α → ι} {k : α → κ} {l : List α}

theorem Keyed.eq_of_key (hl : Keyed f (fun a b => k a = k b) l) {a b : α} (ha : a ∈ l)
    (hb : b ∈ l) (h : k a = k b) : a = b := by
  by_contra hne
  exact hl.not_rel (fun h => h.symm) ha hb (fun hid => hne (hl.eq_of_mem ha hb hid)) h

end Rows

namespace IncomingStock

/-- An observation that cannot be tied to an item of the account: its variant id resolves to no
link of the account, or it names neither a variant id nor a SKU. -/
def Untied (st : IncomingStock) (s : Store) (a : ChannelAccount) : Prop :=
  (∃ e, st.externalVariantId = some e ∧ s.findItemLink a.id e = none) ∨
    (st.externalVariantId = none ∧ st.sku = none)

/-- The item an observation is tied to: the item that the account's link for its variant id
sells in the store `s` before, or, without a variant id, the seller's item for its SKU in the
store `s'` after. -/
def TiedTo (st : IncomingStock) (s s' : Store) (a : ChannelAccount) (item : Uuid) : Prop :=
  (∃ e m, st.externalVariantId = some e ∧ s.findItemLink a.id e = some m ∧ m.itemId = item) ∨
    (st.externalVariantId = none ∧
      ∃ k, st.sku = some k ∧ ∃ i ∈ s'.items, i.key = (a.sellerId, k) ∧ i.id = item)

theorem TiedTo.of_items {st : IncomingStock} {s s₁ s' : Store} {a : ChannelAccount} {item : Uuid}
    (h : st.TiedTo s s₁ a item) (hi : s'.items = s₁.items) : st.TiedTo s s' a item := by
  rcases h with h | ⟨he, k, hk, i, hi', hkey, hid⟩
  · exact .inl h
  · exact .inr ⟨he, k, hk, i, hi ▸ hi', hkey, hid⟩

end IncomingStock

namespace Store

variable (s : Store)

theorem upsertItem_fst_mem (seller : Uuid) (sku title : String) (fresh : Uuid) (now : Instant) :
    (s.upsertItem seller sku title fresh now).1 ∈ (s.upsertItem seller sku title fresh now).2.items ∧
      (s.upsertItem seller sku title fresh now).1.key = (seller, sku) := by
  unfold upsertItem
  split
  next e he =>
    have hp := List.find?_some he
    simp only [Bool.and_eq_true, beq_iff_eq] at hp
    exact ⟨Rows.mem_put _ _ _, by simp [CatalogItem.key, hp.1, hp.2]⟩
  next => exact ⟨List.mem_append_right _ (List.mem_singleton_self _), rfl⟩

@[simp] theorem upsertItem_stock (seller : Uuid) (sku title : String) (fresh : Uuid)
    (now : Instant) : (s.upsertItem seller sku title fresh now).2.stock = s.stock := by
  unfold upsertItem
  split <;> rfl

end Store

namespace Pipeline

variable (c : Context) (σ : Service) (a : ChannelAccount) (st : IncomingStock)

/-- The level write that ends a tied observation, run from `σ` for the item it was tied to:
nothing without a quantity, else the upsert of the level of the item, account and location, with
the next id and clock reading. -/
def writeLevel (item : Uuid) (σ : Service) : Except SyncError (Option StockLevel) × Service :=
  match st.available with
  | none => (.ok none, σ)
  | some v =>
    let r := σ.store.upsertStock item a.id st.locationId v (idOf (σ.issued + 1))
      (readingOf c.origin (σ.readings + 1))
    (.ok (some r.1), { σ with issued := σ.issued + 1, readings := σ.readings + 1, store := r.2 })

theorem writeLevel_none {item : Uuid} (h : st.available = none) :
    writeLevel c a st item σ = (.ok none, σ) := by
  simp [writeLevel, h]

theorem writeLevel_some (item : Uuid) {v : Int} (h : st.available = some v) :
    ∃ level, (writeLevel c a st item σ).1 = .ok (some level) ∧ level.available = v ∧
      level.itemId = item ∧ level.accountId = a.id ∧ level.locationId = st.locationId ∧
      level ∈ (writeLevel c a st item σ).2.store.stock ∧
      (writeLevel c a st item σ).2.store.items = σ.store.items := by
  simp only [writeLevel, h]
  exact ⟨_, rfl, rfl, rfl, rfl, rfl, Rows.mem_put _ _ _, rfl⟩

theorem applyStock_run_untied (h : st.Untied σ.store a) :
    ((applyStock a st).run c).run.run σ = (.ok none, σ) := by
  rcases h with ⟨e, he, hm⟩ | ⟨he, hk⟩
  · simp only [applyStock, run_bind, store_run, he, hm]
    rfl
  · simp only [applyStock, he, hk]
    rfl

theorem applyStock_run_link {e : String} {m : ItemLink} (he : st.externalVariantId = some e)
    (hm : σ.store.findItemLink a.id e = some m) :
    ((applyStock a st).run c).run.run σ =
      writeLevel c a st m.itemId
        { σ with readings := σ.readings + 1,
                 store := σ.store.touchItemLink m.id (readingOf c.origin (σ.readings + 1)) } := by
  simp only [applyStock, run_bind, store_run, he, hm, now_run, setStore]
  cases hv : st.available <;> simp only [writeLevel, hv] <;> rfl

theorem applyStock_run_sku {k : String} (he : st.externalVariantId = none)
    (hk : st.sku = some k) :
    ((applyStock a st).run c).run.run σ =
      let r₁ := σ.store.upsertItem a.sellerId k (st.title.getD k) (idOf (σ.issued + 1))
        (readingOf c.origin (σ.readings + 1))
      let link : NewItemLink :=
        { itemId := r₁.1.id, externalItemId := k, externalVariantId := none,
          inventoryItemId := none, sku := k, active := true, raw := st.raw }
      let r₂ := r₁.2.upsertItemLink a link (idOf (σ.issued + 2))
        (readingOf c.origin (σ.readings + 2))
      writeLevel c a st r₁.1.id
        { σ with issued := σ.issued + 2, readings := σ.readings + 2, store := r₂.2 } := by
  simp only [applyStock, run_bind, he, hk, now_run, freshId_run, onStore_run]
  cases hv : st.available <;> simp only [writeLevel, hv] <;> rfl

theorem applyStock_run_tied (h : ¬ st.Untied σ.store a) :
    ∃ item σ₁, ((applyStock a st).run c).run.run σ = writeLevel c a st item σ₁ ∧
      σ₁.store.stock = σ.store.stock ∧ st.TiedTo σ.store σ₁.store a item ∧
      ((st.externalVariantId.isSome ∨ st.sku = none) →
        ∃ id t, σ₁.store = σ.store.touchItemLink id t) := by
  simp only [IncomingStock.Untied, not_or, not_exists, not_and] at h
  obtain ⟨hlink, hnone⟩ := h
  cases he : st.externalVariantId with
  | some e =>
    obtain ⟨m, hm⟩ := Option.ne_none_iff_exists'.1 (hlink e he)
    exact ⟨_, _, applyStock_run_link c σ a st he hm, rfl, .inl ⟨e, m, he, hm, rfl⟩,
      fun _ => ⟨m.id, _, rfl⟩⟩
  | none =>
    obtain ⟨k, hk⟩ := Option.ne_none_iff_exists'.1 (hnone he)
    have hitem := σ.store.upsertItem_fst_mem a.sellerId k (st.title.getD k) (idOf (σ.issued + 1))
      (readingOf c.origin (σ.readings + 1))
    refine ⟨_, _, applyStock_run_sku c σ a st he hk, by simp [Store.upsertItemLink],
      .inr ⟨he, k, hk, _, hitem.1, hitem.2, rfl⟩, ?_⟩
    rintro (h | h) <;> simp_all

/-- Recording a stock observation in a reachable service, while the ids handed out stay distinct,
never fails. It answers none exactly when the observation cannot be tied to an item of the
account or carries no quantity. An observation that cannot be tied changes nothing. No answer of
none writes a level, and unless the observation was tied through its SKU, such an answer changes
the store at most in a link's sync time. A level answered holds the observed quantity for the
account, the location and the item the observation is tied to, and is the one row of that key. -/
theorem applyStock_outcome {σ σ' : Service} (hσ : Reachable σ) (c : Context) (a : ChannelAccount)
    (st : IncomingStock) {r : Except SyncError (Option StockLevel)}
    (hrun : ((applyStock a st).run c).run.run σ = (r, σ')) (hd : Distinct σ'.issued) :
    (∃ x, r = .ok x) ∧
    (r = .ok none ↔ st.Untied σ.store a ∨ st.available = none) ∧
    (st.Untied σ.store a → σ' = σ) ∧
    (r = .ok none → σ'.store.stock = σ.store.stock ∧
      ((st.externalVariantId.isSome ∨ st.sku = none) →
        σ'.store = σ.store ∨ ∃ id t, σ'.store = σ.store.touchItemLink id t)) ∧
    ∀ level, r = .ok (some level) → some level.available = st.available ∧
      level.accountId = a.id ∧ level.locationId = st.locationId ∧
      st.TiedTo σ.store σ'.store a level.itemId ∧
      level ∈ σ'.store.stock ∧ ∀ l ∈ σ'.store.stock, l.key = level.key → l = level := by
  have hkeyed : σ'.store.Keyed := by
    have h := SyncM.keeps_of_triple (applyStock_sound σ'.issued a st) c (hσ.good σ'.issued)
    rw [hrun] at h
    exact (h hd le_rfl).keyed
  by_cases hu : st.Untied σ.store a
  · -- the observation is dropped before anything is written
    rw [applyStock_run_untied c σ a st hu, Prod.mk.injEq] at hrun
    obtain ⟨rfl, rfl⟩ := hrun
    exact ⟨⟨_, rfl⟩, iff_of_true rfl (.inl hu), fun _ => rfl, fun _ => ⟨rfl, fun _ => .inl rfl⟩,
      fun _ h => nomatch h⟩
  obtain ⟨item, σ₁, hrun₁, hstock, htied, hframe⟩ := applyStock_run_tied c σ a st hu
  rw [hrun₁] at hrun
  cases hv : st.available with
  | none =>
    rw [writeLevel_none c σ₁ a st hv, Prod.mk.injEq] at hrun
    obtain ⟨rfl, rfl⟩ := hrun
    exact ⟨⟨_, rfl⟩, iff_of_true rfl (.inr rfl), fun h => absurd h hu,
      fun _ => ⟨hstock, fun h => .inr (hframe h)⟩, fun _ h => nomatch h⟩
  | some v =>
    obtain ⟨level, hl, hav, hitem, hacc, hloc, hmem, hitems⟩ :=
      writeLevel_some c σ₁ a st item hv
    rw [hrun] at hl hmem hitems
    subst hl
    refine ⟨⟨_, rfl⟩, ⟨fun h => (nomatch h), ?_⟩, fun h => absurd h hu, fun h => (nomatch h), ?_⟩
    · rintro (h | h)
      · exact absurd h hu
      · exact nomatch h
    · rintro l' ⟨⟩
      refine ⟨by rw [hav], hacc, hloc, hitem ▸ htied.of_items hitems, hmem, fun l hl hkey => ?_⟩
      exact hkeyed.stock.eq_of_key hl hmem hkey

/-- A quantity for a SKU on a registered eBay account is recorded as the one level of its key,
for the SKU's item. -/
theorem applyStock_outcome_sku_level :
    let c : Context := ⟨default, RetryPolicy.immediate 3, Span.ofSeconds 60, ⟨0, 0⟩,
      Network.unreachable⟩
    let a := ChannelAccount.new (idOf 1) ⟨7⟩ .ebay (some "seller_a") ⟨0, 0⟩
    let σ₀ := (Operation.registerAccount a).apply c {}
    let st : IncomingStock :=
      { externalVariantId := none, sku := some "SKU-9", title := none, locationId := none,
        available := some 5, raw := .null }
    ∃ level σ', ((applyStock a st).run c).run.run σ₀ = (.ok (some level), σ') ∧
      level.available = 5 ∧ st.TiedTo σ₀.store σ'.store a level.itemId ∧
      ∀ l ∈ σ'.store.stock, l.key = level.key → l = level := by
  intro c a σ₀ st
  have hlevel : ((((applyStock a st).run c).run.run σ₀).1.toOption.bind id).isSome = true := by
    decide +kernel
  have hn : (((applyStock a st).run c).run.run σ₀).2.issued < Nat.pow 2 48 := by decide +kernel
  rcases hrun : ((applyStock a st).run c).run.run σ₀ with ⟨r, σ'⟩
  rw [hrun] at hlevel hn
  obtain ⟨-, -, -, -, hsome⟩ := applyStock_outcome (.step c _ .empty) c a st hrun (distinct_of_lt hn)
  rcases r with _ | _ | level
  · cases hlevel
  · cases hlevel
  · obtain ⟨hav, -, -, htied, -, hone⟩ := hsome level rfl
    exact ⟨level, σ', rfl, Option.some.inj hav, htied, hone⟩

/-- An eBay inventory item with a SKU and no quantity can be tied to an item, yet it records
nothing and answers none; the store still gains the SKU's item and its link. -/
theorem applyStock_sku_without_quantity :
    let c : Context := ⟨default, RetryPolicy.immediate 3, Span.ofSeconds 60, ⟨0, 0⟩,
      Network.unreachable⟩
    let a := ChannelAccount.new (idOf 1) ⟨7⟩ .ebay (some "seller_a") ⟨0, 0⟩
    let σ₀ := (Operation.registerAccount a).apply c {}
    let st : IncomingStock :=
      { externalVariantId := none, sku := some "SKU-9", title := none, locationId := none,
        available := none, raw := .null }
    let run := ((applyStock a st).run c).run.run σ₀
    Reachable σ₀ ∧ ¬ st.Untied σ₀.store a ∧ run.1.toOption.map Option.isSome = some false ∧
      σ₀.store.items.isEmpty = true ∧ σ₀.store.itemLinks.isEmpty = true ∧
      run.2.store.items.map (·.sku) = ["SKU-9"] ∧ run.2.store.itemLinks.map (·.sku) = ["SKU-9"] := by
  intro c a σ₀ st run
  refine ⟨.step c _ .empty, by simp [IncomingStock.Untied, st], ?_⟩
  decide +kernel

end Pipeline

end SellerSync
