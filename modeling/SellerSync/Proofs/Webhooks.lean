import Mathlib
import SellerSync.Proofs.QuoteCache
import SellerSync.Sync.Ingest
/-! What a verified webhook delivery does, for every topic, hint and store. -/
open Std.Do

set_option mvcgen.warning false

namespace SellerSync

namespace Decimal

theorem zero_isZero : zero.isZero = true := rfl

theorem zero_add? (d : Decimal) : zero.add? d = some d := by
  unfold add?
  rw [if_pos zero_isZero]

theorem add?_zero_right (d : Decimal) : ∃ e, d.add? zero = some e := by
  unfold add?
  split
  · exact ⟨_, rfl⟩
  · rw [if_pos zero_isZero]
    exact ⟨_, rfl⟩

end Decimal

namespace LineCosts

theorem total_isOk (f : Option Decimal) :
    ∃ t, ({ fulfillment := f, prep := some Decimal.zero } : LineCosts).total = .ok t := by
  cases f with
  | none => exact ⟨_, rfl⟩
  | some d =>
    obtain ⟨e, he⟩ := Decimal.add?_zero_right d
    refine ⟨some e, ?_⟩
    simp [total, components, Decimal.sum?, Decimal.zero_add?, he]

theorem total_ne_error (f : Option Decimal) (e : SyncError) :
    ({ fulfillment := f, prep := some Decimal.zero } : LineCosts).total ≠ .error e := by
  obtain ⟨t, ht⟩ := total_isOk f
  rw [ht]
  exact nofun

end LineCosts

namespace SyncM

variable {α : Type} (c : Context) (σ : Service)

@[simp] theorem store_run : ((store.run c).run.run σ) = (.ok σ.store, σ) := rfl

@[simp] theorem pure_run (a : α) : (((pure a : SyncM α).run c).run.run σ) = (.ok a, σ) := rfl

@[simp] theorem expect_run (r : Except SyncError α) : (((expect r).run c).run.run σ) = (r, σ) := by
  cases r <;> rfl

theorem ok_of_total {x : SyncM α}
    (h : ⦃fun _ _ => ⌜True⌝⦄ x ⦃post⟨fun _ _ _ => ⌜True⌝, fun _ _ => ⌜False⌝⟩⦄) :
    ∃ a σ', (x.run c).run.run σ = (.ok a, σ') := by
  have hr := run_of_triple h c σ trivial
  rcases hx : (x.run c).run.run σ with ⟨_ | a, σ'⟩
  · rw [hx] at hr
    exact hr.elim
  · exact ⟨a, σ', rfl⟩

end SyncM

/-! ### Pipeline operations that never fail -/

namespace Pipeline

-- the soundness triples and loop rules of the other modules speak of sound services; these
-- triples unfold the operations instead
theorem resolveCustomer_total (a : ChannelAccount) (o : IncomingOrder) :
    ⦃fun _ _ => ⌜True⌝⦄ resolveCustomer a o ⦃post⟨fun _ _ _ => ⌜True⌝, fun _ _ => ⌜False⌝⟩⦄ := by
  mvcgen [resolveCustomer, -resolveCustomer_sound]

theorem resolveLineItem_total (a : ChannelAccount) (line : IncomingLine) :
    ⦃fun _ _ => ⌜True⌝⦄ resolveLineItem a line ⦃post⟨fun _ _ _ => ⌜True⌝, fun _ _ => ⌜False⌝⟩⦄ := by
  mvcgen [resolveLineItem, -resolveLineItem_sound]

theorem projectAudit_total (a : ChannelAccount) (stored : StoredOrder) (o : IncomingOrder)
    (src : IngestSource) :
    ⦃fun _ _ => ⌜True⌝⦄ projectAudit a stored o src
      ⦃post⟨fun _ _ _ => ⌜True⌝, fun _ _ => ⌜False⌝⟩⦄ := by
  mvcgen [projectAudit, SyncM.expect, -projectAudit_sound, -SyncM.forIn_good, -SyncM.forIn_holds,
    -SyncM.forIn_soundWith] invariants
    · post⟨fun _ _ _ => ⌜True⌝, fun _ _ => ⌜False⌝⟩
  case vc2.step.h_2 => exact LineCosts.total_ne_error _ _ ‹_›

theorem applyOrder_total (a : ChannelAccount) (o : IncomingOrder) (src : IngestSource) :
    ⦃fun _ _ => ⌜True⌝⦄ applyOrder a o src ⦃post⟨fun _ _ _ => ⌜True⌝, fun _ _ => ⌜False⌝⟩⦄ := by
  mvcgen [applyOrder, resolveCustomer_total, resolveLineItem_total, projectAudit_total,
    -applyOrder_sound, -resolveCustomer_sound, -resolveLineItem_sound, -projectAudit_sound,
    -SyncM.forIn_good, -SyncM.forIn_holds, -SyncM.forIn_soundWith] invariants
    · post⟨fun _ _ _ => ⌜True⌝, fun _ _ => ⌜False⌝⟩

theorem applyProduct_total (a : ChannelAccount) (p : IncomingProduct) :
    ⦃fun _ _ => ⌜True⌝⦄ applyProduct a p ⦃post⟨fun _ _ _ => ⌜True⌝, fun _ _ => ⌜False⌝⟩⦄ := by
  mvcgen [applyProduct, -applyProduct_sound, -SyncM.forIn_good, -SyncM.forIn_holds,
    -SyncM.forIn_soundWith] invariants
    · post⟨fun _ _ _ => ⌜True⌝, fun _ _ => ⌜False⌝⟩

theorem applyStock_total (a : ChannelAccount) (st : IncomingStock) :
    ⦃fun _ _ => ⌜True⌝⦄ applyStock a st ⦃post⟨fun _ _ _ => ⌜True⌝, fun _ _ => ⌜False⌝⟩⦄ := by
  mvcgen [applyStock, -applyStock_sound]

end Pipeline

/-! ### Routing a delivery -/

namespace Ingest

open SyncM

/-- The key a delivery's hint names its account by: the trimmed hint, a storefront's normalized
to its shop domain where it is one; none for a missing or blank hint. -/
def senderKey (m : Marketplace) (hint : Option String) : Option String :=
  ((hint.map Text.trim).filter (!·.isEmpty)).map fun h =>
    match m with
    | .shopify => (Consent.shopDomain? h).getD h
    | _ => h

variable (c : Context) (σ : Service)

theorem sender_run (m : Marketplace) (hint : Option String) :
    ((sender m hint).run c).run.run σ =
      (match senderKey m hint with
        | none => .error (.configuration "webhook does not identify the sending account")
        | some k =>
          match σ.store.findAccount m k with
          | some a => .ok a
          | none => .error (.notFound "channel account" k), σ) := by
  unfold sender senderKey
  cases h : (hint.map Text.trim).filter (!·.isEmpty) with
  | none => rfl
  | some k =>
    cases m <;> simp only [run_bind, store_run, Option.map_some] <;>
      cases σ.store.findAccount _ _ <;> rfl

/-- What a delivery does, case by case. An ignored or refused delivery leaves the service as it
found it; a delivery is refused only for a missing or blank hint, a hint that names no stored
account, or a payload that does not read as the record its topic carries. Every other delivery
runs the pipeline operation its topic selects on the account its hint names, and that operation
ends in a result. -/
theorem deliver_outcomes (event : WebhookEvent) :
    let r := ((deliver event).run c).run.run σ
    let kind := (WebhookKind.ofTopic? event.marketplace event.topic).join
    let key := senderKey event.marketplace event.accountHint
    let found := key.bind (σ.store.findAccount event.marketplace)
    (kind = none ∧ r = (.ok (.ignored ("unrouted topic " ++ event.topic)), σ)) ∨
    (kind.isSome ∧ key = none ∧
      r = (.error (.configuration "webhook does not identify the sending account"), σ)) ∨
    (∃ k, kind.isSome ∧ key = some k ∧ σ.store.findAccount event.marketplace k = none ∧
      r = (.error (.notFound "channel account" k), σ)) ∨
    (∃ a, kind.isSome ∧ found = some a ∧ a.isActive = false ∧
      r = (.ok (.ignored "account inactive"), σ)) ∨
    (∃ a, kind = some .order ∧ found = some a ∧ a.isActive ∧ a.flags.ordersIn = false ∧
      r = (.ok (.ignored "order ingestion disabled"), σ)) ∨
    (∃ a e, found = some a ∧ a.isActive ∧
      ((kind = some .order ∧ a.flags.ordersIn ∧
          (RawOrder.read event.marketplace event.payload).bind RawOrder.translate = .error e) ∨
        (kind = some .product ∧ Shopify.translateProduct event.payload = .error e) ∨
        (kind = some .inventory ∧ RawOrder.readStock event.marketplace event.payload = .error e)) ∧
      r = (.error e, σ)) ∨
    (∃ a, found = some a ∧ a.isActive ∧
      ((∃ o out σ', kind = some .order ∧ a.flags.ordersIn ∧
          (RawOrder.read event.marketplace event.payload).bind RawOrder.translate = .ok o ∧
          ((Pipeline.applyOrder a o .webhook).run c).run.run σ = (.ok out, σ') ∧
          r = (.ok (.order out.orderId out.lines), σ')) ∨
        (∃ p out σ', kind = some .product ∧ Shopify.translateProduct event.payload = .ok p ∧
          ((Pipeline.applyProduct a p).run c).run.run σ = (.ok out, σ') ∧
          r = (.ok (.product out.variants out.skipped), σ')) ∨
        (∃ st out σ', kind = some .inventory ∧
          RawOrder.readStock event.marketplace event.payload = .ok st ∧
          ((Pipeline.applyStock a st).run c).run.run σ = (.ok out, σ') ∧
          r = (.ok (.inventory out.isSome), σ')))) := by
  intro r kind key found
  cases hk : (WebhookKind.ofTopic? event.marketplace event.topic).join with
  | none =>
    refine .inl ⟨hk, ?_⟩
    simp only [r, deliver, hk]
    rfl
  | some k =>
  have hks : kind.isSome := by simp [kind, hk]
  cases hkey : senderKey event.marketplace event.accountHint with
  | none =>
    refine .inr (.inl ⟨hks, hkey, ?_⟩)
    simp only [r, deliver, hk, run_bind, sender_run, hkey]
  | some x =>
  cases ha : σ.store.findAccount event.marketplace x with
  | none =>
    refine .inr (.inr (.inl ⟨x, hks, hkey, ha, ?_⟩))
    simp only [r, deliver, hk, run_bind, sender_run, hkey, ha]
  | some a =>
  have hfound : found = some a := by simp [found, key, hkey, ha]
  cases hact : a.isActive with
  | false =>
    refine .inr (.inr (.inr (.inl ⟨a, hks, hfound, hact, ?_⟩)))
    simp only [r, deliver, hk, run_bind, sender_run, hkey, ha, hact]
    rfl
  | true =>
  cases k with
  | order =>
    cases hin : a.flags.ordersIn with
    | false =>
      refine .inr (.inr (.inr (.inr (.inl ⟨a, hk, hfound, hact, hin, ?_⟩))))
      simp only [r, deliver, hk, run_bind, sender_run, hkey, ha, hact, hin]
      rfl
    | true =>
      cases hread : (RawOrder.read event.marketplace event.payload).bind RawOrder.translate with
      | error e =>
        refine .inr (.inr (.inr (.inr (.inr (.inl ⟨a, e, hfound, hact, .inl ⟨hk, hin, rfl⟩, ?_⟩)))))
        simp only [r, deliver, hk, run_bind, sender_run, hkey, ha, hact, hin, hread]
        rfl
      | ok o =>
        obtain ⟨out, σ', hrun⟩ := ok_of_total c σ (Pipeline.applyOrder_total a o .webhook)
        refine .inr (.inr (.inr (.inr (.inr (.inr ⟨a, hfound, hact,
          .inl ⟨o, out, σ', hk, hin, rfl, hrun, ?_⟩⟩)))))
        simp only [r, deliver, hk, run_bind, sender_run, hkey, ha, hact, hin, Bool.not_true,
          Bool.false_eq_true, ↓reduceIte, expect_run, hread, hrun, pure_run]
  | product =>
    cases hp : Shopify.translateProduct event.payload with
    | error e =>
      refine .inr (.inr (.inr (.inr (.inr (.inl ⟨a, e, hfound, hact, .inr (.inl ⟨hk, rfl⟩), ?_⟩)))))
      simp only [r, deliver, hk, run_bind, sender_run, hkey, ha, hact, hp]
      rfl
    | ok p =>
      obtain ⟨out, σ', hrun⟩ := ok_of_total c σ (Pipeline.applyProduct_total a p)
      refine .inr (.inr (.inr (.inr (.inr (.inr ⟨a, hfound, hact,
        .inr (.inl ⟨p, out, σ', hk, rfl, hrun, ?_⟩)⟩)))))
      simp only [r, deliver, hk, run_bind, sender_run, hkey, ha, hact, Bool.not_true,
        Bool.false_eq_true, ↓reduceIte, expect_run, hp, hrun, pure_run]
  | inventory =>
    cases hs : RawOrder.readStock event.marketplace event.payload with
    | error e =>
      refine .inr (.inr (.inr (.inr (.inr (.inl ⟨a, e, hfound, hact, .inr (.inr ⟨hk, rfl⟩), ?_⟩)))))
      simp only [r, deliver, hk, run_bind, sender_run, hkey, ha, hact, hs]
      rfl
    | ok st =>
      obtain ⟨out, σ', hrun⟩ := ok_of_total c σ (Pipeline.applyStock_total a st)
      refine .inr (.inr (.inr (.inr (.inr (.inr ⟨a, hfound, hact,
        .inr (.inr ⟨st, out, σ', hk, rfl, hrun, ?_⟩)⟩)))))
      simp only [r, deliver, hk, run_bind, sender_run, hkey, ha, hact, Bool.not_true,
        Bool.false_eq_true, ↓reduceIte, expect_run, hs, hrun, pure_run]

/-- No topic is routed on Amazon, so every Amazon delivery is ignored. -/
example (t : String) : (WebhookKind.ofTopic? .amazon t).join = none := rfl

end Ingest

end SellerSync
