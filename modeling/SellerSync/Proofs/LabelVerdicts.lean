import SellerSync.Proofs.Steady
import SellerSync.Proofs.ErasureScope
import SellerSync.Proofs.CustomerMatch
import SellerSync.Pipeline.Threads
/-! Audit verdicts of labelled orders. -/
open Std.Do

set_option mvcgen.warning false

namespace SellerSync

namespace AuditLine

/-- The verdict an audit line earns once its order has a label: its address alone decides. -/
def Labelled (x : AuditLine) : Prop := (x.status, x.reasons)=Quality.assess x.shipTo true

instance : DecidablePred Labelled := fun _ => inferInstanceAs (Decidable (_=_))

theorem Labelled.verdict {x : AuditLine} (h : x.Labelled) :
    QualityReason.missingLabel∉x.reasons ∧ (x.status=.valid ↔ x.shipTo.isDeliverable=true) := by
  have hs : x.status=(Quality.assess x.shipTo true).1 := congrArg Prod.fst h
  have hr : x.reasons=(Quality.assess x.shipTo true).2 := congrArg Prod.snd h
  refine ⟨?_, ?_⟩
  · rw [hr]
    cases hd : x.shipTo.isDeliverable <;> simp [Quality.assess, Quality.reasons, hd]
  · rw [hs, Quality.assess_valid_iff]
    simp

end AuditLine

namespace Rows

variable {α ι : Type} {f : α → ι} {p : α → Bool} {x y : α} {l : List α}

theorem mem_put_iff (hl : (l.map f).Nodup) (hp : ∀ y, p y=true ↔ f y=f x)
    (hx : ∃ e∈l, f e=f x) : y∈put p x l ↔ y=x ∨ (y∈l ∧ f y≠f x) := by
  rcases put_cases p x l with ⟨-, hall⟩ | ⟨l₁, e, l₂, rfl, he, hput⟩
  · obtain ⟨e, he, hfe⟩ := hx
    exact absurd ((hp e).2 hfe) (by simp [hall e he])
  · have hfe : f e=f x := (hp e).1 he
    rw [List.map_append, List.map_cons, List.nodup_middle, List.nodup_cons, ← List.map_append]
      at hl
    have hout : ∀ z∈l₁++l₂, f z≠f x := fun z hz hzx =>
      hl.1 (List.mem_map.2 ⟨z, hz, hzx.trans hfe.symm⟩)
    rw [hput]
    simp only [List.mem_append, List.mem_cons] at hout ⊢
    constructor
    · rintro (hy | rfl | hy)
      · exact .inr ⟨.inl hy, hout y (.inl hy)⟩
      · exact .inl rfl
      · exact .inr ⟨.inr (.inr hy), hout y (.inr hy)⟩
    · rintro (rfl | ⟨hy | rfl | hy, hne⟩)
      · exact .inr (.inl rfl)
      · exact .inl hy
      · exact absurd hfe hne
      · exact .inr (.inr hy)

end Rows

namespace Store

/-- Every audit line of an order that a label names has the labelled verdict. -/
def LabelsCovered (s : Store) : Prop :=
  ∀ l∈s.labels, ∀ x∈s.audit, l.orderId=some x.orderId → x.Labelled

instance : DecidablePred LabelsCovered := fun s =>
  inferInstanceAs (Decidable (∀ l∈s.labels, ∀ x∈s.audit, _))

variable {s s' : Store}

theorem LabelsCovered.of_subset (h : s.LabelsCovered) (hl : ∀ l∈s'.labels, l∈s.labels)
    (ha : ∀ x∈s'.audit, x∈s.audit) : s'.LabelsCovered :=
  fun l hl' x hx hlx => h l (hl l hl') x (ha x hx) hlx

/-! Each write but the audit and label upserts leaves both tables as they were, or drops rows. -/

theorem labelsCovered_of_modifyAccount {id : Uuid} {g : ChannelAccount → ChannelAccount}
    {r : ChannelAccount × Store} (h : s.LabelsCovered) (hm : s.modifyAccount id g=.ok r) :
    r.2.LabelsCovered := by
  unfold modifyAccount at hm
  split at hm
  next => contradiction
  next => cases hm; exact h

theorem labelsCovered_of_deleteAccount {id seller : Uuid} {r : Bool × Store}
    (h : s.LabelsCovered) (hm : s.deleteAccount id seller=.ok r) : r.2.LabelsCovered := by
  unfold deleteAccount at hm
  split at hm
  next => cases hm; exact h
  next =>
    split at hm
    next => contradiction
    next => cases hm; exact h

theorem labelsCovered_of_recordInboundLabels {account : Uuid} {shipmentId : String}
    {labels : InboundLabels} {now : Instant} {x : InboundShipment} (h : s.LabelsCovered)
    (hr : s.recordInboundLabels account shipmentId labels now=some (x, s')) :
    s'.LabelsCovered := by
  unfold recordInboundLabels at hr
  cases he : s.inbound? account shipmentId with
  | none => simp [he] at hr
  | some e =>
    simp only [he, Option.map_some, Option.some.injEq, Prod.mk.injEq] at hr
    rw [← hr.2]
    exact h

theorem LabelsCovered.eraseIdentity (h : s.LabelsCovered) (m : Marketplace) (x : String)
    (fresh : Uuid) (now : Instant) : (s.eraseIdentity m x fresh now).2.LabelsCovered := by
  obtain ⟨req, hs⟩ := eraseIdentity_snd s m x fresh now
  rw [hs]
  refine h.of_subset (fun l hl => ?_) fun y hy => (mem_withoutAccounts_audit.1 hy).1
  simp only [withoutAccounts, List.mem_filter] at hl
  exact hl.1

theorem LabelsCovered.stable : Stable LabelsCovered where
  upsertAccount _ _ h := h
  modifyAccount h hm := labelsCovered_of_modifyAccount h hm
  deleteAccount h hm := labelsCovered_of_deleteAccount h hm
  upsertItem _ _ _ _ _ h := by unfold upsertItem; split <;> exact h
  upsertItemLink _ _ _ _ h := h
  touchItemLink _ _ h := h
  resolveCustomer {s} seller account ext cand fresh now h := by
    obtain ⟨_, hr⟩ := @resolveCustomer_snd s seller account ext cand fresh now
    rw [hr]
    exact h
  upsertCustomerLink _ _ _ _ _ _ h := h
  upsertOrder _ h := h
  upsertLine _ h := by simp only [upsertLine]; split <;> exact h
  upsertStock _ _ _ _ _ _ h := h
  upsertQuote _ h := h
  upsertInbound _ _ h := h
  recordInboundLabels h hr := labelsCovered_of_recordInboundLabels h hr
  eraseIdentity _ _ _ _ h := h.eraseIdentity _ _ _ _

theorem upsertAudit_fst (a : AuditLine) : ∃ id, (s.upsertAudit a).1={ a with id } := by
  simp only [Store.upsertAudit]
  split <;> exact ⟨_, rfl⟩

theorem upsertAudit_audit (a : AuditLine) : (s.upsertAudit a).2.audit=
    Rows.put (·.id == (s.upsertAudit a).1.id) (s.upsertAudit a).1 s.audit := rfl

theorem upsertLabel_labels (L : ShippingLabel) : (s.upsertLabel L).2.labels=
    Rows.put (·.id == (s.upsertLabel L).1.id) (s.upsertLabel L).1 s.labels := rfl

theorem LabelsCovered.upsertAudit (h : s.LabelsCovered) {a : AuditLine}
    (ha : (∃ l∈s.labels, l.orderId=some a.orderId) → a.Labelled) :
    (s.upsertAudit a).2.LabelsCovered := by
  intro l hl x hx hlx
  obtain ⟨id, hid⟩ := @upsertAudit_fst s a
  rw [upsertAudit_audit, hid] at hx
  rcases Rows.mem_of_mem_put hx with rfl | hx
  · exact ha ⟨l, hl, hlx⟩
  · exact h l hl x hx hlx

theorem LabelsCovered.upsertAudit_of_verdict (h : s.LabelsCovered) {a : AuditLine} {lp : Bool}
    (hv : (a.status, a.reasons)=Quality.assess a.shipTo lp)
    (hlp : s.hasLabelForOrder a.orderId=true → lp=true) : (s.upsertAudit a).2.LabelsCovered :=
  h.upsertAudit fun ⟨l, hl, hlo⟩ => by
    have : s.hasLabelForOrder a.orderId=true := List.any_eq_true.2 ⟨l, hl, by simp [hlo]⟩
    rw [hlp this] at hv
    exact hv

theorem upsertAudit_fst_of_mem (hk : s.Keyed) {c y : AuditLine} (hc : c∈s.audit)
    (hid : y.id=c.id) (hkey : y.key=c.key) : (s.upsertAudit y).1=y := by
  simp only [upsertAudit]
  split
  next e he =>
    have hey : e.key=y.key := by simpa [AuditLine.key, and_assoc] using List.find?_some he
    have hec : e.id=c.id := by
      by_contra hne
      exact hk.audit.not_rel (fun h => h.symm) (List.mem_of_find?_eq_some he) hc hne
        (hey.trans hkey)
    rw [hec, ← hid]
  next => rfl

theorem mem_upsertAudit_of_mem (hk : s.Keyed) {c y x : AuditLine} (hc : c∈s.audit)
    (hid : y.id=c.id) (hkey : y.key=c.key) :
    x∈(s.upsertAudit y).2.audit ↔ x=y ∨ (x∈s.audit ∧ x.id≠c.id) := by
  rw [upsertAudit_audit, upsertAudit_fst_of_mem hk hc hid hkey, ← hid]
  exact Rows.mem_put_iff hk.audit.1 (fun _ => beq_iff_eq) ⟨c, hc, hid.symm⟩

/-- Labelled orders are covered but for the stored audit lines `rest`, of distinct ids, that are
still to be rewritten. -/
structure Pending (rest : List AuditLine) (s : Store) : Prop where
  covered : ∀ l∈s.labels, ∀ x∈s.audit, l.orderId=some x.orderId → x.Labelled ∨ x∈rest
  stored : ∀ y∈rest, y∈s.audit
  nodup : (rest.map (·.id)).Nodup

theorem Pending.labelsCovered (h : s.Pending []) : s.LabelsCovered := fun l hl x hx hlx =>
  (h.covered l hl x hx hlx).resolve_right List.not_mem_nil

theorem Pending.upsertAudit (hk : s.Keyed) {c : AuditLine} {rest : List AuditLine}
    (h : s.Pending (c::rest)) {y : AuditLine} (hid : y.id=c.id) (hkey : y.key=c.key)
    (hy : y.Labelled) : (s.upsertAudit y).2.Pending rest := by
  have hc := h.stored c List.mem_cons_self
  have hrest : ∀ z∈rest, z.id≠c.id := by
    have := h.nodup
    simp only [List.map_cons, List.nodup_cons, List.mem_map] at this
    exact fun z hz hzc => this.1 ⟨z, hz, hzc⟩
  refine ⟨fun l hl x hx hlx => ?_, fun z hz => ?_, (List.nodup_cons.1 h.nodup).2⟩
  · rcases (mem_upsertAudit_of_mem hk hc hid hkey).1 hx with rfl | ⟨hx, hxc⟩
    · exact .inl hy
    · rcases h.covered l hl x hx hlx with hx' | hx'
      · exact .inl hx'
      · rcases List.mem_cons.1 hx' with rfl | hx'
        · exact absurd rfl hxc
        · exact .inr hx'
  · exact (mem_upsertAudit_of_mem hk hc hid hkey).2
      (.inr ⟨h.stored z (List.mem_cons_of_mem _ hz), hrest z hz⟩)

theorem Pending.upsertLabel (h : s.LabelsCovered) (hk : s.Keyed) {L : ShippingLabel} {o : Uuid}
    (ho : (s.upsertLabel L).1.orderId=some o) :
    (s.upsertLabel L).2.Pending ((s.upsertLabel L).2.auditForOrder o) := by
  refine ⟨fun l hl x hx hlx => ?_, fun y hy => (List.mem_filter.1 hy).1, ?_⟩
  · rw [upsertLabel_labels] at hl
    rcases Rows.mem_of_mem_put hl with rfl | hl
    · rw [ho, Option.some.injEq] at hlx
      exact .inr (List.mem_filter.2 ⟨hx, by simp [hlx]⟩)
    · exact .inl (h l hl x hx hlx)
  · exact hk.audit.1.sublist ((List.filter_sublist).map _)

theorem LabelsCovered.upsertLabel (h : s.LabelsCovered) {L : ShippingLabel}
    (ho : (s.upsertLabel L).1.orderId=none) : (s.upsertLabel L).2.LabelsCovered := by
  intro l hl x hx hlx
  rw [upsertLabel_labels] at hl
  rcases Rows.mem_of_mem_put hl with rfl | hl
  · rw [ho] at hlx
    exact absurd hlx (by simp)
  · exact h l hl x hx hlx

/-- Labelled orders are covered while the ids handed out are distinct. -/
def CoveredUpTo (N n : Nat) (s : Store) : Prop := Service.Distinct N → n ≤ N → s.LabelsCovered

end Store

open Service

namespace Pipeline

variable (N : Nat)

theorem projectAudit_covers (a : ChannelAccount) (stored : StoredOrder) (o : IncomingOrder)
    (src : IngestSource) :
    ⦃fun _ σ => ⌜σ.SoundWith N (Store.CoveredUpTo N)⌝⦄ projectAudit a stored o src
      ⦃post⟨fun _ _ σ => ⌜σ.SoundWith N (Store.CoveredUpTo N)⌝,
        fun _ σ => ⌜σ.SoundWith N (Store.CoveredUpTo N)⌝⟩⦄ := by
  mvcgen [projectAudit, SyncM.expect, -projectAudit_sound, -SyncM.forIn_good,
    -SyncM.forIn_holds, -SyncM.forIn_soundWith]
  case inv1 =>
    rename_i lp
    exact post⟨fun _ _ σ => ⌜σ.SoundWith N (Store.CoveredUpTo N) ∧
        (σ.store.hasLabelForOrder stored.id=true → lp=true)⌝,
      fun _ σ => ⌜σ.SoundWith N (Store.CoveredUpTo N)⌝⟩
  case vc1.step.h_1 =>
    rename_i hinv _ _
    obtain ⟨⟨hs, hc⟩, hlp⟩ := hinv
    exact ⟨⟨hs.succ.upsertAudit issuedUpTo_next,
      fun hd hn => (hc hd (Nat.le_of_succ_le hn)).upsertAudit_of_verdict rfl hlp⟩, hlp⟩
  case vc2.step.h_2 =>
    rename_i hinv _ _
    exact hinv.1
  case vc3.pre =>
    rename_i h lp
    exact ⟨h, fun hl => by simp [lp, hl]⟩
  case vc4.post.success =>
    rename_i hinv
    exact hinv.1
  case vc5.post.except => exact ExceptConds.entails.rfl

theorem recordLabel_covers (a : ChannelAccount) (input : LabelInput) :
    ⦃fun _ σ => ⌜σ.SoundWith N (Store.CoveredUpTo N)⌝⦄ recordLabel a input
      ⦃post⟨fun _ _ σ => ⌜σ.SoundWith N (Store.CoveredUpTo N)⌝,
        fun _ σ => ⌜σ.SoundWith N (Store.CoveredUpTo N)⌝⟩⦄ := by
  mvcgen [recordLabel, -recordLabel_sound, -SyncM.forIn_good, -SyncM.forIn_holds,
    -SyncM.forIn_soundWith]
  case inv1 =>
    exact post⟨fun c _ σ => ⌜σ.Good N ∧ (∀ l∈c.1.suffix, IssuedUpTo N σ.issued l.id) ∧
        (Distinct N → σ.issued ≤ N → σ.store.Pending c.1.suffix)⌝,
      fun _ σ => ⌜σ.SoundWith N (Store.CoveredUpTo N)⌝⟩
  case vc1.step =>
    rename_i cur _ _ _ _ _ hinv
    obtain ⟨hg, hl, hp⟩ := hinv
    exact ⟨hg.upsertAudit (hl cur List.mem_cons_self),
      fun l hl' => hl l (List.mem_cons_of_mem _ hl'),
      fun hd hn => (hp hd hn).upsertAudit (hg hd hn).keyed rfl rfl rfl⟩
  case vc2.h_1.pre =>
    rename_i h _ _ ho
    have hn : ∀ {n}, n+1 ≤ N → n ≤ N := Nat.le_of_succ_le
    refine ⟨h.1.upsertLabel rfl, fun l hl => ?_, fun hd hN => ?_⟩
    · exact Store.SoundUpTo.issuedUpTo_of_mem_audit (h.1.upsertLabel rfl) (List.mem_filter.1 hl).1
    · exact Store.Pending.upsertLabel (h.2 hd (hn hN)) (h.1 hd (hn hN)).keyed ho
  case vc3.h_1.post.success =>
    rename_i hinv
    exact ⟨hinv.1, fun hd hn => (hinv.2.2 hd hn).labelsCovered⟩
  case vc4.h_1.post.except => exact ExceptConds.entails.rfl
  case vc5.h_2 =>
    rename_i h _ _ hne ho
    have ho : _=none := ho.trans (Option.eq_none_iff_forall_ne_some.2 hne)
    exact ⟨h.1.upsertLabel rfl, fun hd hn => (h.2 hd (Nat.le_of_succ_le hn)).upsertLabel ho⟩

end Pipeline

theorem Store.CoveredUpTo.steady (N : Nat) : Store.Steady N (Store.CoveredUpTo N) :=
  Store.Steady.of_upTo Store.LabelsCovered.stable (Pipeline.projectAudit_covers N)
    (Pipeline.recordLabel_covers N)

/-- Along every run of operations, one after another, while the ids handed out are distinct:
every audit line of an order that a stored label names is not missing a label, and is valid
exactly when its ship-to address can be delivered to. -/
theorem Reachable.label_verdicts {σ : Service} (h : Reachable σ) (hd : Distinct σ.issued) :
    ∀ l∈σ.store.labels, ∀ x∈σ.store.audit, l.orderId=some x.orderId →
      QualityReason.missingLabel∉x.reasons ∧ (x.status=.valid ↔ x.shipTo.isDeliverable=true) := by
  intro l hl x hx hlx
  have hc : σ.store.LabelsCovered :=
    (Reachable.soundWith (Store.CoveredUpTo.steady σ.issued)
      (fun _ _ _ hl => absurd hl List.not_mem_nil) h).2 hd le_rfl
  exact (hc l hl x hx hlx).verdict

/-- An order to a deliverable address is first audited as missing its label; once a label names
it, its line is valid. -/
theorem label_validates_order_line :
    let c : Context := ⟨default, RetryPolicy.immediate 3, Span.ofSeconds 60, ⟨0, 0⟩,
      Network.unreachable⟩
    let a := ChannelAccount.new (idOf 1) ⟨7⟩ .shopify (some "a.myshopify.com") ⟨0, 0⟩
    let o : IncomingOrder :=
      { externalOrderId := "1001", status := "paid", currency := none, totals := {},
        placedAt := none, closedAt := none, marketplaceId := none, fulfillmentChannel := none,
        customer := none,
        lines := [{ externalLineId := some "10", sku := some "SKU-1", quantity := 1 }],
        shipTo := { city := some "Austin", region := some "TX", postalCode := some "78701" },
        fulfillmentCost := none, labelHint := false, raw := .null }
    let σ₁ := (Operation.applyOrder a o .poll).apply c <| (Operation.registerAccount a).apply c {}
    let σ₂ := (Operation.recordLabel a { orderId := some (idOf 2), shipmentId := "S-1" }).apply c σ₁
    Reachable σ₂ ∧ Distinct σ₂.issued ∧
      σ₁.store.audit.map (·.reasons)=[[QualityReason.missingLabel]] ∧
      (∃ l∈σ₂.store.labels, ∃ x∈σ₂.store.audit, l.orderId=some x.orderId) ∧
      ∀ l∈σ₂.store.labels, ∀ x∈σ₂.store.audit, l.orderId=some x.orderId →
        QualityReason.missingLabel∉x.reasons ∧ (x.status=.valid ↔ x.shipTo.isDeliverable=true) := by
  intro c a o σ₁ σ₂
  have h : Reachable σ₂ := .step c _ (.step c _ (.step c _ .empty))
  have hd : Distinct σ₂.issued := distinct_of_lt (by decide +kernel)
  exact ⟨h, hd, by decide +kernel, by decide +kernel, Reachable.label_verdicts h hd⟩

/-- The verdicts are kept call by call, not across calls. An order's ingestion and the recording
of a label for it, run one after the other in either order, leave the order's audit line with the
labelled verdict; but when the ingestion looks for the label before the recording stores it and
writes the line after the recording has rewritten the order's lines, the line is left missing
its label. -/
theorem label_recorded_mid_ingestion_leaves_stale_verdict :
    let g := ChannelAccount.new (idOf 1) ⟨7⟩ .shopify (some "a.myshopify.com") ⟨0, 0⟩
    let o : IncomingOrder :=
      { externalOrderId := "1001", status := "paid", currency := none, totals := {},
        placedAt := none, closedAt := none, marketplaceId := none, fulfillmentChannel := none,
        customer := none, lines := [{ externalLineId := some "10", quantity := 1 }],
        shipTo := { city := some "Austin", region := some "TX", postalCode := some "78701" },
        fulfillmentCost := none, labelHint := false, raw := .null }
    let a : Thread OrderOutcome :=
      ⟨Script.applyOrder g o .poll, fun n => idOf (2+n), fun n => readingOf ⟨0, 0⟩ (1+n)⟩
    let b : Thread ShippingLabel :=
      ⟨Script.recordLabel g { orderId := some (idOf 2), shipmentId := "S-1" },
        fun n => idOf (20+n), fun n => readingOf ⟨0, 0⟩ (20+n)⟩
    (interleave [] a b {}).2.2.LabelsCovered ∧
      (interleave (List.replicate 3 false) a b {}).2.2.LabelsCovered ∧
      (interleave (List.replicate 6 true ++ List.replicate 3 false) a b {}).1.script.outcome?.isSome ∧
      (interleave (List.replicate 6 true ++ List.replicate 3 false) a b {}).2.1.script.outcome?.isSome ∧
      ∃ l∈(interleave (List.replicate 6 true ++ List.replicate 3 false) a b {}).2.2.labels,
        ∃ x∈(interleave (List.replicate 6 true ++ List.replicate 3 false) a b {}).2.2.audit,
          l.orderId=some x.orderId ∧ QualityReason.missingLabel∈x.reasons := by
  intro g o a b
  decide +kernel

end SellerSync
