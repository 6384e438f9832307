import SellerSync.Store.Erase
import SellerSync.Proofs.Rows
/-! Erasing an external identity at once. -/
namespace SellerSync

attribute [ext] Store

namespace Store

/-- The ids of the orders of the accounts `ids`. -/
def orderIdsOf (s : Store) (ids : List Uuid) : List Uuid :=
  (s.orders.filter fun o => ids.contains o.accountId).map (·.id)

/-- The store without the accounts `ids` and what belongs to them: their orders, the lines of
those orders, the labels of the accounts or of those orders, and their audit lines, stock
levels, inbound shipments and links. Items, customers, quotes and deletion requests stay. -/
def withoutAccounts (s : Store) (ids : List Uuid) : Store :=
  let orderIds := s.orderIdsOf ids
  { s with
    accounts := s.accounts.filter fun a => !ids.contains a.id
    orders := s.orders.filter fun o => !ids.contains o.accountId
    lines := s.lines.filter fun l => !orderIds.contains l.orderId
    labels := s.labels.filter fun l =>
      !ids.contains l.accountId && !(l.orderId.any fun o => orderIds.contains o)
    audit := s.audit.filter fun a => !ids.contains a.accountId
    stock := s.stock.filter fun l => !ids.contains l.accountId
    inbound := s.inbound.filter fun x => !ids.contains x.accountId
    itemLinks := s.itemLinks.filter fun m => !ids.contains m.accountId
    customerLinks := s.customerLinks.filter fun m => !ids.contains m.accountId }

/-- Counts per kind in the order an erasure first reports them. -/
def tally (lines labels audit stock inbound itemLinks customerLinks orders accounts : Nat) :
    List (String × Nat) :=
  [("orderLines", lines), ("labels", labels), ("audit", audit), ("inventory", stock),
    ("inboundShipments", inbound), ("items", itemLinks), ("customers", customerLinks),
    ("orders", orders), ("channelAccounts", accounts)]

/-- How many rows of each kind `s'` has fewer than `s`. -/
def removalCounts (s s' : Store) : List (String × Nat) :=
  tally (s.lines.length - s'.lines.length) (s.labels.length - s'.labels.length)
    (s.audit.length - s'.audit.length) (s.stock.length - s'.stock.length)
    (s.inbound.length - s'.inbound.length) (s.itemLinks.length - s'.itemLinks.length)
    (s.customerLinks.length - s'.customerLinks.length) (s.orders.length - s'.orders.length)
    (s.accounts.length - s'.accounts.length)

theorem mem_orderIdsOf {s : Store} {ids : List Uuid} {x : Uuid} :
    x∈s.orderIdsOf ids ↔ ∃ o∈s.orders, o.accountId∈ids ∧ o.id=x := by
  simp [orderIdsOf, and_assoc]

theorem withoutAccounts_nil (s : Store) : s.withoutAccounts []=s := by
  cases s
  simp [withoutAccounts, orderIdsOf]

theorem withoutAccounts_shrinks (s : Store) (ids : List Uuid) :
    let s' := s.withoutAccounts ids
    s'.lines.length ≤ s.lines.length ∧ s'.labels.length ≤ s.labels.length ∧
      s'.audit.length ≤ s.audit.length ∧ s'.stock.length ≤ s.stock.length ∧
      s'.inbound.length ≤ s.inbound.length ∧ s'.itemLinks.length ≤ s.itemLinks.length ∧
      s'.customerLinks.length ≤ s.customerLinks.length ∧ s'.orders.length ≤ s.orders.length ∧
      s'.accounts.length ≤ s.accounts.length := by
  simp [withoutAccounts, List.length_filter_le]

theorem mem_orderIdsOf_cons {s : Store} {id : Uuid} {ids : List Uuid} {x : Uuid} :
    x∈(s.withoutAccounts [id]).orderIdsOf ids ∨ x∈s.orderIdsOf [id] ↔ x∈s.orderIdsOf (id::ids) := by
  simp only [mem_orderIdsOf, withoutAccounts, List.mem_filter, List.contains_cons,
    List.contains_nil, Bool.or_false, List.mem_cons, List.not_mem_nil, or_false]
  constructor
  · rintro (⟨o, ⟨ho, -⟩, hi, rfl⟩ | ⟨o, ho, hi, rfl⟩)
    · exact ⟨o, ho, .inr hi, rfl⟩
    · exact ⟨o, ho, .inl hi, rfl⟩
  · rintro ⟨o, ho, hi | hi, rfl⟩
    · exact .inr ⟨o, ho, hi, rfl⟩
    · by_cases hid : o.accountId=id
      · exact .inr ⟨o, ho, hid, rfl⟩
      · exact .inl ⟨o, ⟨ho, by simpa using hid⟩, hi, rfl⟩

theorem withoutAccounts_cons (s : Store) (id : Uuid) (ids : List Uuid) :
    (s.withoutAccounts [id]).withoutAccounts ids=s.withoutAccounts (id::ids) := by
  have hacc : ∀ u, (!ids.contains u && !([id].contains u))=!(id::ids).contains u := by
    intro u
    simp only [List.contains_cons, List.contains_nil, Bool.or_false, Bool.not_or, Bool.and_comm]
  have hord : ∀ x, (!((s.withoutAccounts [id]).orderIdsOf ids).contains x &&
      !(s.orderIdsOf [id]).contains x)=!(s.orderIdsOf (id::ids)).contains x := by
    intro x
    rw [← Bool.not_or]
    congr 1
    rw [Bool.eq_iff_iff, Bool.or_eq_true, List.contains_iff_mem, List.contains_iff_mem,
      List.contains_iff_mem]
    exact mem_orderIdsOf_cons
  have hany : ∀ o : Option Uuid,
      (!(o.any fun x => ((s.withoutAccounts [id]).orderIdsOf ids).contains x) &&
        !(o.any fun x => (s.orderIdsOf [id]).contains x))=
        !(o.any fun x => (s.orderIdsOf (id::ids)).contains x) := by
    intro o
    cases o with
    | none => rfl
    | some x => exact hord x
  simp only [withoutAccounts] at hord hany
  ext1 <;> simp only [withoutAccounts, List.filter_filter, hacc, hord]
  -- a label goes with its account or with its order: the two tests swap places
  case labels =>
    refine List.filter_congr fun l _ => ?_
    rw [← hacc, ← hany]
    ac_rfl

theorem eraseAccount_fst (s : Store) (id : Uuid) (counts : List (String × Nat)) :
    (s.eraseAccount id counts).1=s.withoutAccounts [id] := by
  simp only [eraseAccount, withoutAccounts, orderIdsOf, List.contains_cons, List.contains_nil,
    Bool.or_false, bne]

theorem eraseAccount_snd_tally (s : Store) (id : Uuid) (a b c d e f g h i : Nat) :
    (s.eraseAccount id (tally a b c d e f g h i)).2=
      let s' := s.withoutAccounts [id]
      tally (a+(s.lines.length-s'.lines.length)) (b+(s.labels.length-s'.labels.length))
        (c+(s.audit.length-s'.audit.length)) (d+(s.stock.length-s'.stock.length))
        (e+(s.inbound.length-s'.inbound.length)) (f+(s.itemLinks.length-s'.itemLinks.length))
        (g+(s.customerLinks.length-s'.customerLinks.length))
        (h+(s.orders.length-s'.orders.length)) (i+(s.accounts.length-s'.accounts.length)) := by
  rw [← eraseAccount_fst s id (tally a b c d e f g h i)]
  simp [eraseAccount, tally, bump]

theorem eraseAccount_snd_nil (s : Store) (id : Uuid) :
    (s.eraseAccount id []).2=s.removalCounts (s.withoutAccounts [id]) := by
  rw [← eraseAccount_fst s id []]
  simp [eraseAccount, removalCounts, tally, bump]

theorem foldl_eraseAccount_fst (ids : List Uuid) (acc : Store × List (String × Nat)) :
    (ids.foldl (fun acc id => acc.1.eraseAccount id acc.2) acc).1=acc.1.withoutAccounts ids := by
  induction ids generalizing acc with
  | nil => exact (withoutAccounts_nil acc.1).symm
  | cons id ids ih =>
    rw [List.foldl_cons, ih, eraseAccount_fst, withoutAccounts_cons]

theorem foldl_eraseAccount_snd (ids : List Uuid) (s : Store) (a b c d e f g h i : Nat) :
    (ids.foldl (fun acc id => acc.1.eraseAccount id acc.2) (s, tally a b c d e f g h i)).2=
      let s' := s.withoutAccounts ids
      tally (a+(s.lines.length-s'.lines.length)) (b+(s.labels.length-s'.labels.length))
        (c+(s.audit.length-s'.audit.length)) (d+(s.stock.length-s'.stock.length))
        (e+(s.inbound.length-s'.inbound.length)) (f+(s.itemLinks.length-s'.itemLinks.length))
        (g+(s.customerLinks.length-s'.customerLinks.length))
        (h+(s.orders.length-s'.orders.length)) (i+(s.accounts.length-s'.accounts.length)) := by
  induction ids generalizing s a b c d e f g h i with
  | nil => simp [withoutAccounts_nil]
  | cons id ids ih =>
    rw [List.foldl_cons]
    dsimp only
    have hs₁ := eraseAccount_fst s id (tally a b c d e f g h i)
    have hc₁ := eraseAccount_snd_tally s id a b c d e f g h i
    generalize s.eraseAccount id (tally a b c d e f g h i)=p at hs₁ hc₁ ⊢
    obtain ⟨s₁, c₁⟩ := p
    dsimp only at hs₁ hc₁
    subst hs₁ hc₁
    rw [ih, withoutAccounts_cons]
    have h₁ := withoutAccounts_shrinks s [id]
    have h₂ := withoutAccounts_shrinks (s.withoutAccounts [id]) ids
    rw [withoutAccounts_cons] at h₂
    simp only [tally, List.cons.injEq, Prod.mk.injEq, true_and, and_true]
    omega

theorem foldl_eraseAccount (ids : List Uuid) (hids : ids≠[]) (s : Store) :
    ids.foldl (fun acc id => acc.1.eraseAccount id acc.2) (s, [])=
      (s.withoutAccounts ids, s.removalCounts (s.withoutAccounts ids)) := by
  obtain ⟨id, rest, rfl⟩ := List.exists_cons_of_ne_nil hids
  rw [List.foldl_cons]
  dsimp only
  have hs₁ := eraseAccount_fst s id []
  have hc₁ := eraseAccount_snd_nil s id
  generalize s.eraseAccount id []=p at hs₁ hc₁ ⊢
  obtain ⟨s₁, c₁⟩ := p
  dsimp only at hs₁ hc₁
  subst hs₁ hc₁
  refine Prod.ext ?_ ?_
  · rw [foldl_eraseAccount_fst, withoutAccounts_cons]
  · rw [removalCounts, foldl_eraseAccount_snd, withoutAccounts_cons, removalCounts]
    have h₁ := withoutAccounts_shrinks s [id]
    have h₂ := withoutAccounts_shrinks (s.withoutAccounts [id]) rest
    rw [withoutAccounts_cons] at h₂
    simp only [tally, List.cons.injEq, Prod.mk.injEq, true_and, and_true]
    omega

theorem isEmpty_map_filter {α β : Type} (l : List α) (p : α → Bool) (f : α → β) :
    ((l.filter p).map f).isEmpty=!l.any p := by
  cases h : l.any p <;> simp_all [List.isEmpty_iff, List.filter_eq_nil_iff]

theorem map_filter_ne_nil {α β : Type} {l : List α} {p : α → Bool} {f : α → β}
    (h : l.any p=true) : (l.filter p).map f≠[] := by
  simpa [List.filter_eq_nil_iff] using h

/-- Erasing an external identity removes the accounts of the marketplace known by the trimmed
id, when there are some, together with everything that belongs to them, and reports per kind the
number of rows it removed, in a completed request; items, customers, quotes and the rows of other
accounts stay. When no account matches, which is always so for a blank id, it only records a
request that matched nothing. The erased accounts are exactly the matched ones as long as no two
accounts share an id. -/
theorem eraseIdentity_exact (s : Store) (hs : (s.accounts.map (·.id)).Nodup) (m : Marketplace)
    (x : String) (fresh : Uuid) (now : Instant) :
    let ext := Text.trim x
    let matched : ChannelAccount → Bool := fun a =>
      a.marketplace==m && !ext.isEmpty && a.externalId==some ext
    let erased := s.withoutAccounts ((s.accounts.filter matched).map (·.id))
    erased.accounts=s.accounts.filter (fun a => !matched a) ∧
    s.eraseIdentity m x fresh now=
      if s.accounts.any matched then
        (⟨true, some (s.removalCounts erased), none⟩,
          { erased with
            deletions := s.deletions ++
              [{ id := fresh, provider := m, externalId := ext, status := .completed,
                 detail := none, counts := s.removalCounts erased, createdAt := now,
                 completedAt := some now }] })
      else
        (⟨false, none, some "no_match"⟩,
          { s with
            deletions := s.deletions ++
              [{ id := fresh, provider := m, externalId := ext, status := .noMatch,
                 detail := some "no channel account matches the external id", counts := [],
                 createdAt := now, completedAt := some now }] }) := by
  dsimp only
  refine ⟨?_, ?_⟩
  · -- an account's id is among the matched ids only when the account itself matched
    refine List.filter_congr fun a ha => ?_
    congr 1
    rw [Bool.eq_iff_iff, List.contains_iff_mem, List.mem_map]
    constructor
    · rintro ⟨b, hb, hba⟩
      rw [List.mem_filter] at hb
      exact Rows.eq_of_nodup_map hs hb.1 ha hba ▸ hb.2
    · exact fun h => ⟨a, List.mem_filter.2 ⟨ha, h⟩, rfl⟩
  · simp only [eraseIdentity, isEmpty_map_filter]
    split
    next h =>
      rw [Bool.not_eq_true'] at h
      simp only [h, Bool.false_eq_true, if_false]
    next h =>
      simp only [Bool.not_eq_true, Bool.not_eq_false'] at h
      rw [foldl_eraseAccount _ (map_filter_ne_nil h)]
      simp only [h, if_true]
      rfl

/-- A store with two accounts of a seller, one of them a shop; erasing the shop's domain written
with blanks around it goes through the theorem above. -/
theorem eraseIdentity_exact_of_shop :
    let s : Store :=
      { accounts := [ChannelAccount.new ⟨1⟩ ⟨7⟩ .shopify (some "shop.example") ⟨0, 0⟩,
          ChannelAccount.new ⟨2⟩ ⟨7⟩ .ebay (some "shop.example") ⟨0, 0⟩] }
    (s.accounts.map (·.id)).Nodup ∧
    let ext := Text.trim " shop.example "
    let matched : ChannelAccount → Bool := fun a =>
      a.marketplace==.shopify && !ext.isEmpty && a.externalId==some ext
    let erased := s.withoutAccounts ((s.accounts.filter matched).map (·.id))
    erased.accounts=s.accounts.filter (fun a => !matched a) ∧
    s.eraseIdentity .shopify " shop.example " ⟨3⟩ ⟨0, 0⟩=
      if s.accounts.any matched then
        (⟨true, some (s.removalCounts erased), none⟩,
          { erased with
            deletions := s.deletions ++
              [{ id := ⟨3⟩, provider := .shopify, externalId := ext, status := .completed,
                 detail := none, counts := s.removalCounts erased, createdAt := ⟨0, 0⟩,
                 completedAt := some ⟨0, 0⟩ }] })
      else
        (⟨false, none, some "no_match"⟩,
          { s with
            deletions := s.deletions ++
              [{ id := ⟨3⟩, provider := .shopify, externalId := ext, status := .noMatch,
                 detail := some "no channel account matches the external id", counts := [],
                 createdAt := ⟨0, 0⟩, completedAt := some ⟨0, 0⟩ }] }) := by
  intro s
  exact ⟨by decide, eraseIdentity_exact s (by decide) .shopify " shop.example " ⟨3⟩ ⟨0, 0⟩⟩

end Store

end SellerSync
