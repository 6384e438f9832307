import Mathlib
import SellerSync.Proofs.StockLevels
/-! What `Pipeline.recordLabel` writes, for every reachable store. -/

namespace SellerSync

open SyncM Service

namespace AuditLine

/-- The line with the verdict its address earns once its order has a label, stamped `t`. -/
def labelledAt (x : AuditLine) (t : Instant) : AuditLine :=
  { x with status := (Quality.assess x.shipTo true).1, reasons := (Quality.assess x.shipTo true).2,
           updatedAt := t }

@[simp] theorem labelledAt_id (x : AuditLine) (t : Instant) : (x.labelledAt t).id = x.id := rfl

@[simp] theorem labelledAt_key (x : AuditLine) (t : Instant) : (x.labelledAt t).key = x.key := rfl

end AuditLine

namespace Rows

variable {α ι : Type} {f : α → ι} {p : α → Bool} {x : α} {l : List α}

theorem put_eq_map (hl : (l.map f).Nodup) (hp : ∀ y, p y = true ↔ f y = f x)
    (hx : ∃ e ∈ l, f e = f x) : put p x l = l.map fun y => if p y then x else y := by
  induction l with
  | nil => simp at hx
  | cons z zs ih =>
    rw [List.map_cons, List.nodup_cons] at hl
    by_cases hz : p z = true
    · -- the first row of that id is the only one, so the rows after it stay
      have hrest : ∀ y ∈ zs, p y = false := fun y hy => by
        rw [Bool.eq_false_iff, ne_eq, hp]
        exact fun hyx => hl.1 (List.mem_map.2 ⟨y, hy, hyx.trans ((hp z).1 hz).symm⟩)
      simp only [put, hz, if_true, List.map_cons, List.cons.injEq, true_and]
      exact (List.map_congr_left fun y hy => by simp [hrest y hy]).trans (List.map_id' zs) |>.symm
    · have hx' : ∃ e ∈ zs, f e = f x := by
        obtain ⟨e, he, hfe⟩ := hx
        rcases List.mem_cons.1 he with rfl | he
        · exact absurd ((hp e).2 hfe) hz
        · exact ⟨e, he, hfe⟩
      simp [put, hz, ih hl.2 hx']

end Rows

namespace Store

variable {s : Store}

theorem upsertAudit_of_mem (hk : s.Keyed) {c y : AuditLine} (hc : c ∈ s.audit) (hid : y.id = c.id)
    (hkey : y.key = c.key) :
    (s.upsertAudit y).2 = { s with audit := s.audit.map fun z => if z.id = c.id then y else z } := by
  rw [show (s.upsertAudit y).2 = { s with audit := (s.upsertAudit y).2.audit } from rfl,
    upsertAudit_audit, upsertAudit_fst_of_mem hk hc hid hkey,
    Rows.put_eq_map hk.audit.1 (fun _ => beq_iff_eq) ⟨c, hc, hid.symm⟩]
  simp [hid]

theorem upsertLabel_fst (L : ShippingLabel) : ∃ id, (s.upsertLabel L).1 =
    { L with id, orderId := L.orderId.or ((s.labels.find? fun e =>
        e.accountId == L.accountId && e.shipmentId == L.shipmentId).bind (·.orderId)) } := by
  unfold upsertLabel
  split
  next e he => exact ⟨e.id, by simp [he]⟩
  next he => exact ⟨L.id, by simp [he]⟩

theorem mem_upsertLabel_labels (hk : s.Keyed) {L : ShippingLabel} (hfresh : ∀ l ∈ s.labels, l.id ≠ L.id)
    {l : ShippingLabel} : l ∈ (s.upsertLabel L).2.labels ↔
      l = (s.upsertLabel L).1 ∨ (l ∈ s.labels ∧ l.key ≠ (s.upsertLabel L).1.key) := by
  have hkey : ∀ e : ShippingLabel,
      (e.accountId == L.accountId && e.shipmentId == L.shipmentId) = true ↔ e.key = L.key := by
    simp [ShippingLabel.key]
  rw [upsertLabel_labels]
  unfold upsertLabel
  split
  next e he =>
    have he' : e ∈ s.labels := List.mem_of_find?_eq_some he
    have hp := List.find?_some he
    have hek : e.key = L.key := (hkey e).1 hp
    dsimp only
    rw [Rows.mem_put_iff hk.labels.1 (x := { L with id := e.id, orderId := L.orderId.or e.orderId })
      (fun _ => beq_iff_eq) ⟨e, he', rfl⟩]
    refine or_congr_right (and_congr_right fun hl => ?_)
    show l.id ≠ e.id ↔ l.key ≠ L.key
    rw [← hek]
    exact not_congr ⟨fun h => congrArg ShippingLabel.key (hk.labels.eq_of_mem hl he' h),
      fun h => congrArg ShippingLabel.id (hk.labels.eq_of_key hl he' h)⟩
  next he =>
    have hnone : s.labels.find? (·.id == L.id) = none :=
      List.find?_eq_none.2 fun y hy => by simpa using hfresh y hy
    dsimp only
    rw [Rows.put_of_none _ _ _ hnone, List.mem_append, List.mem_singleton, or_comm]
    refine or_congr_right ⟨fun hl => ⟨hl, fun h => ?_⟩, And.left⟩
    exact List.find?_eq_none.1 he l hl ((hkey l).2 h)

end Store

namespace Pipeline

/-- The label an account stores for a label input under `id`, before the upsert merges it with an
earlier one. -/
def labelFor (a : ChannelAccount) (input : LabelInput) (id : Uuid) : ShippingLabel :=
  { id, sellerId := a.sellerId, accountId := a.id, marketplace := a.marketplace,
    orderId := input.orderId, shipmentId := input.shipmentId, labelFormat := input.labelFormat,
    downloadUrl := input.downloadUrl, document := input.document, mimeType := input.mimeType,
    expiresAt := input.expiresAt, raw := input.raw }

/-- The audit rewrite of a labelled order, line after line from `σ`: each line is written over
itself with the labelled verdict, at the next clock reading. -/
def relabelEach (c : Context) : List AuditLine → Service → Service
  | [], σ => σ
  | x :: xs, σ =>
    relabelEach c xs
      { σ with readings := σ.readings + 1,
               store := (σ.store.upsertAudit (x.labelledAt (readingOf c.origin (σ.readings + 1)))).2 }

variable (c : Context)

theorem relabelLoop_run (body : AuditLine → PUnit → SyncM (ForInStep PUnit))
    (hbody : ∀ x u σ, ((body x u).run c).run.run σ =
      (.ok (.yield PUnit.unit),
        { σ with readings := σ.readings + 1,
                 store := (σ.store.upsertAudit (x.labelledAt (readingOf c.origin (σ.readings + 1)))).2 }))
    (xs : List AuditLine) (σ : Service) :
    ((forIn xs PUnit.unit body).run c).run.run σ = (.ok PUnit.unit, relabelEach c xs σ) := by
  induction xs generalizing σ with
  | nil => rfl
  | cons x xs ih =>
    rw [List.forIn_cons, run_bind, hbody]
    exact ih _

theorem recordLabel_run (σ : Service) (a : ChannelAccount) (input : LabelInput) :
    ((recordLabel a input).run c).run.run σ =
      let r := σ.store.upsertLabel (labelFor a input (idOf (σ.issued + 1)))
      let σ₁ : Service := { σ with issued := σ.issued + 1, store := r.2 }
      (.ok r.1, match r.1.orderId with
        | some o => relabelEach c (r.2.auditForOrder o) σ₁
        | none => σ₁) := by
  simp only [recordLabel, labelFor, run_bind, freshId_run, onStore_run]
  split
  next o ho =>
    simp only [ho, run_bind, store_run]
    rw [relabelLoop_run c _ (fun _ _ _ => rfl)]
    rfl
  next hne =>
    simp only [Option.eq_none_iff_forall_ne_some.2 hne]
    rfl

@[simp] theorem relabelEach_issued (xs : List AuditLine) (σ : Service) :
    (relabelEach c xs σ).issued = σ.issued := by
  induction xs generalizing σ with
  | nil => rfl
  | cons x xs ih => exact ih _

/-- The audit line `x` once the lines of order `o`, but for those still in `rest`, are rewritten
with the labelled verdict, each at its own stamp. -/
def relabelled (o : Uuid) (rest : List AuditLine) (stamp : Uuid → Instant) (x : AuditLine) :
    AuditLine :=
  if x.orderId = o ∧ x.id ∉ rest.map (·.id) then x.labelledAt (stamp x.id) else x

@[simp] theorem relabelled_id (o : Uuid) (rest : List AuditLine) (stamp : Uuid → Instant)
    (x : AuditLine) : (relabelled o rest stamp x).id = x.id := by
  unfold relabelled
  split <;> rfl

@[simp] theorem relabelled_key (o : Uuid) (rest : List AuditLine) (stamp : Uuid → Instant)
    (x : AuditLine) : (relabelled o rest stamp x).key = x.key := by
  unfold relabelled
  split <;> rfl

theorem map_relabelled_start (s : Store) (o : Uuid) (stamp : Uuid → Instant) :
    s.audit.map (relabelled o (s.auditForOrder o) stamp) = s.audit := by
  refine (List.map_congr_left fun x hx => ?_).trans (List.map_id _)
  have hpending : x.orderId = o → x.id ∈ (s.auditForOrder o).map (·.id) := fun ho =>
    List.mem_map.2 ⟨x, List.mem_filter.2 ⟨hx, by simp [ho]⟩, rfl⟩
  unfold relabelled
  split
  next h => exact absurd (hpending h.1) h.2
  next => rfl

theorem relabelEach_store {s₁ : Store} (hk : s₁.Keyed) {o : Uuid} {rest : List AuditLine}
    (hrest : rest <:+ s₁.auditForOrder o) (stamp : Uuid → Instant) (σ : Service)
    (hσ : σ.store = { s₁ with audit := s₁.audit.map (relabelled o rest stamp) }) :
    ∃ stamp' : Uuid → Instant,
      (relabelEach c rest σ).store = { s₁ with audit := s₁.audit.map (relabelled o [] stamp') } := by
  induction rest generalizing stamp σ with
  | nil => exact ⟨stamp, hσ⟩
  | cons x₀ rest ih =>
    have hx₀ := List.mem_filter.1 (hrest.subset List.mem_cons_self)
    have ho : x₀.orderId = o := by simpa using hx₀.2
    have hnodup : ((x₀ :: rest).map (·.id)).Nodup :=
      hk.audit.1.sublist (hrest.sublist.trans List.filter_sublist |>.map _)
    have hnew : x₀.id ∉ rest.map (·.id) := (List.nodup_cons.1 (by simpa using hnodup)).1
    have hkσ : σ.store.Keyed := by
      rw [hσ]
      exact { hk with audit := hk.audit.map_key _ fun y _ => ⟨relabelled_id .., relabelled_key ..⟩ }
    have hmem : x₀ ∈ σ.store.audit := by
      rw [hσ]
      refine List.mem_map.2 ⟨x₀, hx₀.1, ?_⟩
      simp [relabelled]
    let t := readingOf c.origin (σ.readings + 1)
    let stamp' : Uuid → Instant := fun i => if i = x₀.id then t else stamp i
    refine ih ((List.suffix_cons x₀ rest).trans hrest) stamp' _ ?_
    show (σ.store.upsertAudit (x₀.labelledAt t)).2 = _
    rw [Store.upsertAudit_of_mem hkσ hmem (y := x₀.labelledAt t) rfl rfl, hσ, List.map_map]
    congr 1
    refine List.map_congr_left fun x hx => ?_
    by_cases hxid : x.id = x₀.id
    · -- the line written is `x₀`, the one line of its id
      obtain rfl := hk.audit.eq_of_mem hx hx₀.1 hxid
      simp [relabelled, ho, hnew, stamp']
    · -- any other line keeps its id, so the write leaves it to the earlier rewrite
      simp only [Function.comp_apply, relabelled_id, hxid, if_false]
      simp [relabelled, hxid, stamp']

/-- Recording a label for account `a` never fails, and writes one label: the account's label for
the shipment, with the order the input names or else the one the account's earlier label for that
shipment named. Every other label stays. The audit lines rewritten are exactly those of the order
that label names, each in its place with the verdict its address earns under a label; every other
line and every other table stays as it was. -/
theorem recordLabel_writes {σ σ' : Service} (hσ : Reachable σ) (a : ChannelAccount)
    (input : LabelInput) {r : Except SyncError ShippingLabel}
    (hrun : ((recordLabel a input).run c).run.run σ = (r, σ')) (hd : Distinct σ'.issued) :
    ∃ label, r = .ok label ∧
      label.accountId = a.id ∧ label.sellerId = a.sellerId ∧ label.shipmentId = input.shipmentId ∧
      label.orderId = input.orderId.or ((σ.store.labels.find? fun e =>
        e.accountId == a.id && e.shipmentId == input.shipmentId).bind (·.orderId)) ∧
      (∀ l, l ∈ σ'.store.labels ↔ l = label ∨ (l ∈ σ.store.labels ∧ l.key ≠ label.key)) ∧
      (∃ stamp : Uuid → Instant, σ'.store.audit = σ.store.audit.map fun x =>
        if label.orderId = some x.orderId then x.labelledAt (stamp x.id) else x) ∧
      σ'.store = { σ.store with labels := σ'.store.labels, audit := σ'.store.audit } := by
  rw [recordLabel_run] at hrun
  generalize hL : labelFor a input (idOf (σ.issued + 1)) = L at hrun
  obtain ⟨rfl, hσ'⟩ := Prod.mk.inj hrun
  have hiss : σ'.issued = σ.issued + 1 := by
    rw [← hσ']
    split <;> simp
  have hsound : σ.store.Sound σ.issued := hσ.good σ'.issued hd (by omega)
  have hfresh : ∀ l ∈ σ.store.labels, l.id ≠ L.id := fun l hl => by
    rw [← hL]
    exact (hsound.issued.labels l hl).ne_next hd hiss.ge
  have hk₁ : (σ.store.upsertLabel L).2.Keyed := hsound.keyed.upsertLabel L
  have hstore : ∃ stamp : Uuid → Instant, σ'.store = { (σ.store.upsertLabel L).2 with
      audit := σ.store.audit.map fun x =>
        if (σ.store.upsertLabel L).1.orderId = some x.orderId then x.labelledAt (stamp x.id)
        else x } := by
    rw [← hσ']
    split
    next o ho =>
      obtain ⟨stamp, hst⟩ := relabelEach_store c hk₁ (o := o) (List.suffix_refl _) (fun _ => c.origin)
        { σ with issued := σ.issued + 1, store := (σ.store.upsertLabel L).2 }
        (by rw [map_relabelled_start])
      refine ⟨stamp, hst.trans ?_⟩
      congr 1
      exact List.map_congr_left fun x _ => by simp [relabelled, ho, eq_comm]
    next hne =>
      refine ⟨fun _ => c.origin, ?_⟩
      simp only [hne, reduceCtorEq, if_false, List.map_id']
      rfl
  obtain ⟨stamp, hst⟩ := hstore
  obtain ⟨id, hid⟩ := Store.upsertLabel_fst (s := σ.store) L
  refine ⟨_, rfl, ?_, ?_, ?_, ?_, fun l => ?_, ⟨stamp, by rw [hst]⟩, by rw [hst]; rfl⟩
  · rw [hid, ← hL]; rfl
  · rw [hid, ← hL]; rfl
  · rw [hid, ← hL]; rfl
  · rw [hid, ← hL]; rfl
  · rw [hst]
    exact Store.mem_upsertLabel_labels hsound.keyed hfresh

/-- A label an account records for its own order is the one label of the store, and rewrites that
order's audit line. -/
theorem recordLabel_writes_own_order :
    let c : Context := ⟨default, RetryPolicy.immediate 3, Span.ofSeconds 60, ⟨0, 0⟩,
      Network.unreachable⟩
    let a := ChannelAccount.new (idOf 1) ⟨7⟩ .shopify (some "a.myshopify.com") ⟨0, 0⟩
    let o : IncomingOrder :=
      { externalOrderId := "1001", status := "paid", currency := none, totals := {},
        placedAt := none, closedAt := none, marketplaceId := none, fulfillmentChannel := none,
        customer := none,
        lines := [{ externalLineId := some "10", sku := some "SKU-1", quantity := 1 }],
        shipTo := { city := some "Austin", region := some "TX", postalCode := some "78701" },
        fulfillmentCost := none, labelHint := false, raw := .null }
    let σ₁ := (Operation.applyOrder a o .poll).apply c <| (Operation.registerAccount a).apply c {}
    let input : LabelInput := { orderId := some (idOf 2), shipmentId := "S-1" }
    ∃ label σ', ((recordLabel a input).run c).run.run σ₁ = (.ok label, σ') ∧
      label.accountId = a.id ∧ label.orderId = some (idOf 2) ∧
      (∀ l, l ∈ σ'.store.labels ↔ l = label) ∧
      ∃ stamp : Uuid → Instant, σ'.store.audit = σ₁.store.audit.map fun x =>
        if label.orderId = some x.orderId then x.labelledAt (stamp x.id) else x := by
  intro c a o σ₁ input
  have hn : (((recordLabel a input).run c).run.run σ₁).2.issued < Nat.pow 2 48 := by
    decide +kernel
  have hnone : σ₁.store.labels.isEmpty = true := by decide +kernel
  have hσ₁ : Reachable σ₁ := .step c _ (.step c _ .empty)
  rcases hrun : ((recordLabel a input).run c).run.run σ₁ with ⟨r, σ'⟩
  rw [hrun] at hn
  obtain ⟨label, rfl, hacc, -, -, hord, hlabels, haudit, -⟩ :=
    recordLabel_writes c hσ₁ a input hrun (distinct_of_lt hn)
  refine ⟨label, σ', rfl, hacc, by rw [hord]; rfl, fun l => ?_, haudit⟩
  rw [hlabels l, List.isEmpty_iff.1 hnone]
  simp

/-- Nothing ties a label's order to the account recording it: a label that one seller's account
records for an order of another seller's account turns that order's audit line from excluded, for
want of a label, to valid. -/
theorem recordLabel_relabels_foreign_order :
    let c : Context := ⟨default, RetryPolicy.immediate 3, Span.ofSeconds 60, ⟨0, 0⟩,
      Network.unreachable⟩
    let a := ChannelAccount.new (idOf 1) ⟨7⟩ .shopify (some "a.myshopify.com") ⟨0, 0⟩
    let b := ChannelAccount.new (idOf 2) ⟨8⟩ .shopify (some "b.myshopify.com") ⟨0, 0⟩
    let o : IncomingOrder :=
      { externalOrderId := "1001", status := "paid", currency := none, totals := {},
        placedAt := none, closedAt := none, marketplaceId := none, fulfillmentChannel := none,
        customer := none,
        lines := [{ externalLineId := some "10", sku := some "SKU-1", quantity := 1 }],
        shipTo := { city := some "Austin", region := some "TX", postalCode := some "78701" },
        fulfillmentCost := none, labelHint := false, raw := .null }
    let σ₁ := (Operation.applyOrder b o .poll).apply c <| (Operation.registerAccount b).apply c <|
      (Operation.registerAccount a).apply c {}
    let σ₂ := (Operation.recordLabel a { orderId := some (idOf 3), shipmentId := "S-1" }).apply c σ₁
    Reachable σ₂ ∧ a.id ≠ b.id ∧ a.sellerId ≠ b.sellerId ∧
      σ₁.store.audit.map (fun x => (x.accountId == b.id && x.sellerId == b.sellerId, x.status,
        x.reasons)) = [(true, QualityStatus.excluded, [QualityReason.missingLabel])] ∧
      σ₂.store.audit.map (fun x => (x.accountId == b.id && x.sellerId == b.sellerId, x.status,
        x.reasons)) = [(true, QualityStatus.valid, [])] := by
  intro c a b o σ₁ σ₂
  have h : Reachable σ₂ := .step c _ (.step c _ (.step c _ (.step c _ .empty)))
  exact ⟨h, by decide +kernel, by decide +kernel, by decide +kernel, by decide +kernel⟩

end Pipeline

end SellerSync
