import SellerSync.Proofs.LinkedRuns
import SellerSync.Proofs.LabelVerdicts
/-! Applying an order rebuilds its audit rows with one upsert per line, each keyed by the seller, the
order's external id and the line's SKU. -/
namespace SellerSync

open Std.Do Service

set_option mvcgen.warning false

/-- The last of the lines carrying the SKU `k`. -/
def lastWithSku (ls : List IncomingLine) (k : Option String) : Option IncomingLine :=
  (ls.filter (·.sku == k)).getLast?

@[simp] theorem lastWithSku_append_self (ls : List IncomingLine) (l : IncomingLine) :
    lastWithSku (ls ++ [l]) l.sku = some l := by
  simp [lastWithSku]

theorem lastWithSku_append_of_ne {ls : List IncomingLine} {l : IncomingLine} {k : Option String}
    (h : l.sku ≠ k) : lastWithSku (ls ++ [l]) k = lastWithSku ls k := by
  simp [lastWithSku, h]

/-- An audit row written for the line `l` of the order `o`, stored under the id `oid` and the
external id `ext` for the account `a`, with the verdict for `label`. -/
structure AuditLine.Projects (x : AuditLine) (a : ChannelAccount) (oid : Uuid) (ext : String)
    (o : IncomingOrder) (label : Bool) (l : IncomingLine) : Prop where
  seller : x.sellerId = a.sellerId
  account : x.accountId = a.id
  order : x.orderId = oid
  externalId : x.orderExternalId = ext
  sku : x.sku = l.sku
  quantity : x.quantity = l.quantity
  itemCount : x.itemCount = if l.quantity > 0 then l.quantity else 1
  weight : x.weightLbs = l.weightLbs
  costs : x.costs = Pipeline.lineCosts o l
  total : x.costs.total = .ok x.originalCostTotal
  verdict : (x.status, x.reasons) = Quality.assess o.shipTo label

variable {a : ChannelAccount} {oid : Uuid} {ext : String} {o : IncomingOrder} {label : Bool}
  {l : IncomingLine}

theorem AuditLine.Projects.withId {x : AuditLine} (h : x.Projects a oid ext o label l) (id : Uuid) :
    ({ x with id } : AuditLine).Projects a oid ext o label l :=
  ⟨h.seller, h.account, h.order, h.externalId, h.sku, h.quantity, h.itemCount, h.weight, h.costs,
    h.total, h.verdict⟩

theorem AuditLine.Projects.key {x : AuditLine} (h : x.Projects a oid ext o label l) :
    x.key = (a.sellerId, ext, l.sku) := by
  simp [AuditLine.key, h.seller, h.externalId, h.sku]

/-- Every SKU of the lines `done` has a row in the audit table under the order's key, written from
the last of those lines carrying it. -/
def AuditRows (a : ChannelAccount) (oid : Uuid) (ext : String) (o : IncomingOrder) (label : Bool)
    (done : List IncomingLine) (s : Store) : Prop :=
  ∀ m ∈ done, ∃ x ∈ s.audit, x.key = (a.sellerId, ext, m.sku) ∧
    ∃ l' ∈ lastWithSku done m.sku, x.Projects a oid ext o label l'

namespace Store

variable {s : Store}

@[simp] theorem upsertOrder_externalOrderId (r : StoredOrder) :
    (s.upsertOrder r).1.externalOrderId = r.externalOrderId := by
  obtain ⟨_, h⟩ := @upsertOrder_fst s r
  rw [h]

theorem mem_upsertAudit (y : AuditLine) : (s.upsertAudit y).1 ∈ (s.upsertAudit y).2.audit := by
  rw [upsertAudit_audit]
  exact Rows.mem_put _ _ _

theorem mem_upsertAudit_of_key_ne (hk : s.Keyed) {x y : AuditLine} (hx : x ∈ s.audit)
    (hkey : x.key ≠ y.key) (hfresh : ∀ z ∈ s.audit, z.id ≠ y.id) :
    x ∈ (s.upsertAudit y).2.audit := by
  have hid : x.id ≠ (s.upsertAudit y).1.id := by
    simp only [upsertAudit]
    split
    next e he =>
      have hey : e.key = y.key := by simpa [AuditLine.key, and_assoc] using List.find?_some he
      intro hxe
      exact hkey ((congrArg AuditLine.key
        (hk.audit.eq_of_mem hx (List.mem_of_find?_eq_some he) hxe)).trans hey)
    next => exact hfresh x hx
  rw [upsertAudit_audit]
  exact (Rows.mem_put_of_mem hx).resolve_right (by simpa using hid)

end Store

theorem AuditRows.nil (s : Store) : AuditRows a oid ext o label [] s := by
  simp [AuditRows]

theorem AuditRows.upsertAudit {done : List IncomingLine} {s : Store}
    (h : AuditRows a oid ext o label done s) (hk : s.Keyed) {y : AuditLine}
    (hfresh : ∀ z ∈ s.audit, z.id ≠ y.id) (hy : y.Projects a oid ext o label l) :
    AuditRows a oid ext o label (done ++ [l]) (s.upsertAudit y).2 := by
  intro m hm
  by_cases hsku : l.sku = m.sku
  · -- the new row is the row of this SKU
    obtain ⟨id, hid⟩ := @Store.upsertAudit_fst s y
    refine ⟨_, Store.mem_upsertAudit y, ?_, l, ?_, ?_⟩
    · rw [hid, ← hsku]
      exact (hy.withId id).key
    · rw [← hsku, lastWithSku_append_self]
      rfl
    · rw [hid]
      exact hy.withId id
  · -- a row of another SKU stays
    have hm' : m ∈ done := by
      rcases List.mem_append.1 hm with hm | hm
      · exact hm
      · exact absurd (congrArg IncomingLine.sku (List.mem_singleton.1 hm)).symm hsku
    obtain ⟨x, hx, hkey, l', hl', hp⟩ := h m hm'
    refine ⟨x, Store.mem_upsertAudit_of_key_ne hk hx ?_ hfresh, hkey, l', ?_, hp⟩
    · rw [hkey, hy.key]
      simpa [eq_comm] using hsku
    · rwa [lastWithSku_append_of_ne hsku]

namespace Pipeline

variable (N : Nat)

theorem projectAudit_rows (a : ChannelAccount) (stored : StoredOrder) (o : IncomingOrder)
    (src : IngestSource) :
    ⦃fun _ σ => ⌜σ.Good N⌝⦄ projectAudit a stored o src
      ⦃post⟨fun r _ σ => ⌜σ.Good N ∧ r = o.lines.length ∧ (Distinct N → σ.issued ≤ N →
          AuditRows a stored.id stored.externalOrderId o
            (o.labelHint || σ.store.hasLabelForOrder stored.id) o.lines σ.store)⌝,
        fun _ σ => ⌜σ.Good N⌝⟩⦄ := by
  mvcgen [projectAudit, SyncM.expect, -projectAudit_sound, -SyncM.forIn_good,
    -SyncM.forIn_holds, -SyncM.forIn_soundWith]
  case inv1 =>
    rename_i lp
    exact post⟨fun cur _ σ => ⌜σ.Good N ∧ (o.labelHint || σ.store.hasLabelForOrder stored.id) = lp ∧
        (Distinct N → σ.issued ≤ N →
          AuditRows a stored.id stored.externalOrderId o lp ( List.Cursor.prefix cur.1) σ.store)⌝,
      fun _ σ => ⌜σ.Good N⌝⟩
  case vc1.step.h_1 =>
    rename_i lp _ _ _ hlines _ _ σ hinv t ht
    obtain ⟨hs, hflag, hrows⟩ := hinv
    refine ⟨hs.succ.upsertAudit issuedUpTo_next, hflag, fun hd (hn : σ.issued + 1 ≤ N) => ?_⟩
    have hsound := hs hd (by omega)
    have hfresh : ∀ z ∈ σ.store.audit, z.id ≠ idOf (σ.issued + 1) := fun z hz =>
      (hsound.issued.audit z hz).ne_next hd hn
    exact (hrows hd (by omega)).upsertAudit hsound.keyed hfresh
      ⟨rfl, rfl, rfl, rfl, rfl, rfl, rfl, rfl, rfl, ht, rfl⟩
  case vc2.step.h_2 =>
    rename_i hinv _ _
    exact hinv.1
  case vc3.pre =>
    rename_i h _
    exact ⟨h, rfl, fun _ _ => AuditRows.nil _⟩
  case vc4.post.success =>
    rename_i hinv
    obtain ⟨hs, hflag, hrows⟩ := hinv
    exact ⟨hs, trivial, by rw [hflag]; exact hrows⟩
  case vc5.post.except => exact ExceptConds.entails.rfl

theorem applyOrder_rows (a : ChannelAccount) (o : IncomingOrder) (src : IngestSource) :
    ⦃fun _ σ => ⌜σ.Good N⌝⦄ applyOrder a o src
      ⦃post⟨fun r _ σ => ⌜σ.Good N ∧ r.auditLines = o.lines.length ∧
          (Distinct N → σ.issued ≤ N → AuditRows a r.orderId o.externalOrderId o
            (o.labelHint || σ.store.hasLabelForOrder r.orderId) o.lines σ.store)⌝,
        fun _ σ => ⌜σ.Good N⌝⟩⦄ := by
  mvcgen [applyOrder, projectAudit_rows, -applyOrder_sound, -projectAudit_sound]
  case vc3.step.post.success => solve_by_elim [Store.SoundUpTo.upsertLine]
  case vc4.post.success.pre => solve_by_elim [Store.SoundUpTo.upsertOrder]
  case vc6.post.success.post.success.post.success =>
    rename_i hpost
    obtain ⟨hs, hr, hrows⟩ := hpost
    refine ⟨hs, hr, fun hd hn => ?_⟩
    have h := hrows hd hn
    rwa [Store.upsertOrder_externalOrderId] at h

/-- Once an order is applied to a reachable service, every SKU of its lines has exactly one audit
row under the seller, the order's external id and the SKU: the order's row for the account,
written from the last line carrying the SKU, with the verdict on the address for the label that
the order or the store names. The count reported is the number of the order's lines. -/
theorem applyOrder_audit_rows {σ : Service} (hσ : Reachable σ) (c : Context) (a : ChannelAccount)
    (o : IncomingOrder) (src : IngestSource) {r : OrderOutcome} {σ' : Service}
    (hrun : ((applyOrder a o src).run c).run.run σ = (.ok r, σ'))
    (hd : Distinct σ'.issued) :
    (∀ m ∈ o.lines, ∃ x ∈ σ'.store.audit, x.key = (a.sellerId, o.externalOrderId, m.sku) ∧
      (∀ y ∈ σ'.store.audit, y.key = x.key → y = x) ∧
      ∃ l ∈ lastWithSku o.lines m.sku, x.Projects a r.orderId o.externalOrderId o
        (o.labelHint || σ'.store.hasLabelForOrder r.orderId) l) ∧
    r.auditLines = o.lines.length := by
  have hpost := SyncM.run_of_triple (applyOrder_rows σ'.issued a o src) c σ (hσ.good σ'.issued)
  rw [hrun] at hpost
  obtain ⟨hs, hcount, hrows⟩ := hpost
  have hkeyed := (hs hd le_rfl).keyed
  refine ⟨fun m hm => ?_, hcount⟩
  obtain ⟨x, hx, hkey, hproj⟩ := hrows hd le_rfl m hm
  refine ⟨x, hx, hkey, fun y hy hyx => ?_, hproj⟩
  by_contra hne
  exact hkeyed.audit.not_rel (fun h => h.symm) hy hx
    (fun hid => hne (hkeyed.audit.eq_of_mem hy hx hid)) hyx

/-- An order whose two lines carry one SKU, applied for a registered account: its row is written
from the second line. -/
theorem applyOrder_audit_rows_last_line :
    let c : Context := ⟨default, RetryPolicy.immediate 3, Span.ofSeconds 60, ⟨0, 0⟩,
      Network.unreachable⟩
    let a := ChannelAccount.new (Service.idOf 1) ⟨7⟩ .shopify (some "a.myshopify.com") ⟨0, 0⟩
    let σ₀ := (Operation.registerAccount a).apply c {}
    let A : ChannelAccount := { a with updatedAt := Service.readingOf c.origin 1 }
    let o : IncomingOrder :=
      { externalOrderId := "1001", status := "paid", currency := none, totals := {},
        placedAt := none, closedAt := none, marketplaceId := none, fulfillmentChannel := none,
        customer := none,
        lines := [{ externalLineId := some "10", sku := some "SKU-1", quantity := 1 },
          { externalLineId := some "11", sku := some "SKU-1", quantity := 2 }],
        shipTo := {}, fulfillmentCost := none, labelHint := false, raw := .null }
    let run := ((applyOrder A o .poll).run c).run.run σ₀
    ∃ r σ', run = (.ok r, σ') ∧ r.auditLines = 2 ∧
      ∃ x ∈ σ'.store.audit, x.key = (A.sellerId, "1001", some "SKU-1") ∧ x.quantity = 2 := by
  intro c a σ₀ A o run
  have hok : run.1.toOption.isSome = true := by decide +kernel
  have hn : run.2.issued < Nat.pow 2 48 := by decide +kernel
  rcases hrun : run with ⟨res, σ'⟩
  rw [hrun] at hok hn
  cases res with
  | error e => cases hok
  | ok r =>
    obtain ⟨hrows, hcount⟩ :=
      applyOrder_audit_rows (.step c _ .empty) c A o .poll hrun (distinct_of_lt hn)
    obtain ⟨x, hx, hkey, -, l, hl, hp⟩ := hrows _ List.mem_cons_self
    simp [lastWithSku, o] at hl
    subst hl
    exact ⟨r, σ', rfl, hcount, x, hx, hkey, hp.quantity⟩

/-- The count an application reports is not the number of audit rows it writes: two lines with
one SKU count two, and one row is written. -/
theorem applyOrder_shared_sku_counts_lines :
    let c : Context := ⟨default, RetryPolicy.immediate 3, Span.ofSeconds 60, ⟨0, 0⟩,
      Network.unreachable⟩
    let a := ChannelAccount.new (Service.idOf 1) ⟨7⟩ .shopify (some "a.myshopify.com") ⟨0, 0⟩
    let σ₀ := (Operation.registerAccount a).apply c {}
    let A : ChannelAccount := { a with updatedAt := Service.readingOf c.origin 1 }
    let o : IncomingOrder :=
      { externalOrderId := "1001", status := "paid", currency := none, totals := {},
        placedAt := none, closedAt := none, marketplaceId := none, fulfillmentChannel := none,
        customer := none,
        lines := [{ externalLineId := some "10", sku := some "SKU-1", quantity := 1 },
          { externalLineId := some "11", sku := some "SKU-1", quantity := 2 }],
        shipTo := {}, fulfillmentCost := none, labelHint := false, raw := .null }
    let run := ((applyOrder A o .poll).run c).run.run σ₀
    Reachable σ₀ ∧ σ₀.store.audit.length = 0 ∧ run.1.toOption.map (·.auditLines) = some 2 ∧
      run.2.store.audit.length = 1 := by
  intro c a σ₀ A o run
  refine ⟨.step c _ .empty, ?_⟩
  decide +kernel

end Pipeline

end SellerSync
