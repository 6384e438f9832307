import Mathlib.Data.List.Induction
import SellerSync.Order.Raw
/-! Normalizing an order document: decoding it, then translating it into an incoming order. -/
namespace SellerSync

namespace Fields

theorem sumKnown_nil : sumKnown [] = .ok none := rfl

theorem sumKnown_append_none (xs : List (Option Decimal)) :
    sumKnown (xs ++ [none]) = sumKnown xs := by
  cases h : sumKnown xs <;>
    simp_all [sumKnown, List.foldlM_append, bind, Except.bind, pure, Except.pure]

theorem sumKnown_append_of_error {xs : List (Option Decimal)} {e : SyncError}
    (h : sumKnown xs = .error e) (x : Option Decimal) : sumKnown (xs ++ [x]) = .error e := by
  simp_all [sumKnown, List.foldlM_append, bind, Except.bind]

theorem sumKnown_append_first {xs : List (Option Decimal)} (h : sumKnown xs = .ok none)
    (d : Decimal) : sumKnown (xs ++ [some d]) = .ok (Decimal.zero.add? d) := by
  simp_all [sumKnown, List.foldlM_append, bind, Except.bind, pure, Except.pure]

theorem sumKnown_append_some {xs : List (Option Decimal)} {t : Decimal}
    (h : sumKnown xs = .ok (some t)) (d : Decimal) :
    sumKnown (xs ++ [some d]) =
      match t.add? d with
      | some s => .ok (some s)
      | none => .error SyncError.additionOverflow := by
  simp only [sumKnown, List.foldlM_append] at h ⊢
  rw [h]
  cases hs : t.add? d <;>
    simp [hs, bind, Except.bind, pure, Except.pure, throw, throwThe, MonadExceptOf.throw]

/-- Adding the known amounts in order leaves the decimal range: some known amount does not
add to the sum of those before it. -/
def Overflows (xs : List (Option Decimal)) : Prop :=
  ∃ pre d t, pre ++ [some d] <+: xs ∧ sumKnown pre = .ok (some t) ∧ t.add? d = none

theorem overflows_append {xs : List (Option Decimal)} (h : Overflows xs) (x : Option Decimal) :
    Overflows (xs ++ [x]) := by
  obtain ⟨pre, d, t, hp, hs, ha⟩ := h
  exact ⟨pre, d, t, hp.trans (List.prefix_append _ _), hs, ha⟩

theorem overflows_append_iff {xs : List (Option Decimal)} {a : Option Decimal}
    (h : ¬ Overflows xs) :
    Overflows (xs ++ [a]) ↔ ∃ d t, a = some d ∧ sumKnown xs = .ok (some t) ∧ t.add? d = none := by
  constructor
  · rintro ⟨pre, d, t, hp, hs, ha⟩
    rcases List.prefix_concat_iff.1 hp with he | hp
    · obtain ⟨rfl, rfl⟩ := List.append_singleton_inj.1 he
      exact ⟨d, t, rfl, hs, ha⟩
    · exact absurd ⟨pre, d, t, hp, hs, ha⟩ h
  · rintro ⟨d, t, rfl, hs, ha⟩
    exact ⟨xs, d, t, List.prefix_refl _, hs, ha⟩

theorem sumKnown_eq_error_iff (xs : List (Option Decimal)) (e : SyncError) :
    sumKnown xs = .error e ↔ e = SyncError.additionOverflow ∧ Overflows xs := by
  induction xs using List.reverseRecOn generalizing e with
  | nil =>
    simp only [sumKnown_nil, reduceCtorEq, false_iff, not_and]
    rintro - ⟨pre, d, t, hp, -⟩
    simpa using hp.length_le
  | append_singleton ys a ih =>
    cases hy : sumKnown ys with
    | error e' =>
      obtain ⟨rfl, hov⟩ := (ih e').1 hy
      rw [sumKnown_append_of_error hy]
      simp only [Except.error.injEq]
      exact ⟨fun h => ⟨h.symm, overflows_append hov a⟩, fun h => h.1.symm⟩
    | ok acc =>
      have hno : ¬ Overflows ys := fun hov => by
        have := (ih _).2 ⟨rfl, hov⟩
        rw [hy] at this
        cases this
      rw [overflows_append_iff hno, hy]
      cases a with
      | none => simp [sumKnown_append_none, hy]
      | some d =>
        cases acc with
        | none => simp [sumKnown_append_first hy]
        | some t =>
          rw [sumKnown_append_some hy]
          cases ht : t.add? d <;> simp [eq_comm, ht]

end Fields

namespace Except

variable {ε ε' α β : Type}

theorem bind_eq_error {x : Except ε α} {f : α → Except ε β} {e : ε} :
    x.bind f = .error e ↔ x = .error e ∨ ∃ a, x = .ok a ∧ f a = .error e := by
  cases x <;> simp [Except.bind]

theorem mapError_eq_error {x : Except ε α} {g : ε → ε'} {e : ε'} :
    x.mapError g = .error e ↔ ∃ d, x = .error d ∧ e = g d := by
  cases x <;> simp [Except.mapError, eq_comm]

theorem map_eq_ok {x : Except ε α} {g : α → β} {b : β} :
    x.map g = .ok b ↔ ∃ a, x = .ok a ∧ g a = b := by
  cases x <;> simp [Except.map]

theorem map_eq_error {x : Except ε α} {g : α → β} {e : ε} :
    x.map g = .error e ↔ x = .error e := by
  cases x <;> simp [Except.map]

theorem mapM_error {f : α → Except ε β} {P : ε → Prop}
    (hf : ∀ a e, f a = .error e → P e) : ∀ {xs : List α} {e : ε}, xs.mapM f = .error e → P e
  | [], e, h => by simp [pure, Except.pure] at h
  | x :: xs, e, h => by
    rw [List.mapM_cons] at h
    cases hx : f x with
    | error d => simp [hx, bind, Except.bind] at h; exact h ▸ hf x d hx
    | ok b =>
      cases hxs : xs.mapM f with
      | error d => simp [hx, hxs, bind, Except.bind] at h; exact h ▸ mapM_error hf hxs
      | ok bs => simp [hx, hxs, bind, Except.bind, pure, Except.pure] at h

end Except

namespace Shopify

theorem OrderDoc.translate_eq_error (o : OrderDoc) (raw : Json) (e : SyncError) :
    o.translate raw = .error e ↔
      (o.id = none ∧ e = .invalidPayload .shopify "order id missing") ∨
      (o.id.isSome ∧ e = SyncError.additionOverflow ∧
        (Fields.Overflows o.shippingLines ∨ Fields.Overflows o.discountApplications)) := by
  unfold OrderDoc.translate
  cases hid : o.id with
  | none => simp [throw, throwThe, MonadExceptOf.throw, eq_comm]
  | some id =>
    cases hs : Fields.sumKnown o.shippingLines with
    | error d =>
      obtain ⟨rfl, hov⟩ := (Fields.sumKnown_eq_error_iff _ _).1 hs
      simp [hov, bind, Except.bind, eq_comm]
    | ok st =>
      have hs' : ¬ Fields.Overflows o.shippingLines := fun h => by
        rw [(Fields.sumKnown_eq_error_iff _ _).2 ⟨rfl, h⟩] at hs; cases hs
      cases hd : Fields.sumKnown o.discountApplications with
      | error d =>
        obtain ⟨rfl, hov⟩ := (Fields.sumKnown_eq_error_iff _ _).1 hd
        simp [hov, bind, Except.bind, eq_comm]
      | ok dt =>
        have hd' : ¬ Fields.Overflows o.discountApplications := fun h => by
          rw [(Fields.sumKnown_eq_error_iff _ _).2 ⟨rfl, h⟩] at hd; cases hd
        simp [hs', hd', bind, Except.bind, pure, Except.pure]

end Shopify

theorem Ebay.OrderDoc.translate_eq_error (o : OrderDoc) (raw : Json) (e : SyncError) :
    o.translate raw = .error e ↔
      o.orderId.or o.legacyOrderId = none ∧ e = .invalidPayload .ebay "order id missing" := by
  unfold OrderDoc.translate
  cases o.orderId.or o.legacyOrderId <;> simp [throw, throwThe, MonadExceptOf.throw, eq_comm, pure, Except.pure]

theorem Amazon.Bundle.translate_eq_error (b : Bundle) (e : SyncError) :
    b.translate = .error e ↔
      Fields.optNonEmpty b.order.amazonOrderId = none ∧
        e = .invalidPayload .amazon "AmazonOrderId missing" := by
  unfold Bundle.translate
  cases h : Fields.optNonEmpty b.order.amazonOrderId <;>
    simp [h, throw, throwThe, MonadExceptOf.throw, eq_comm, pure, Except.pure]

namespace RawOrder

/-- Decodes an order document; an Amazon order is read with its items. -/
def readWith (m : Marketplace) (order : Json) (items : List Json) : Except SyncError RawOrder :=
  match m with
  | .amazon => readAmazon order items
  | m => read m order

/-- A rejection of a marketplace's order document, naming why: the error that decoding it met,
or the id it lacks. -/
def Rejects (m : Marketplace) (e : SyncError) : Prop :=
  (∃ d : DecodeError, e = .invalidPayload m d.message) ∨
    e = .invalidPayload m (if m = .amazon then "AmazonOrderId missing" else "order id missing")

theorem readWith_error {m : Marketplace} {order : Json} {items : List Json} {e : SyncError}
    (h : readWith m order items = .error e) : ∃ d : DecodeError, e = .invalidPayload m d.message := by
  cases m with
  | shopify =>
    simp only [readWith, read, Shopify.OrderDoc.read, Except.map_eq_error, Except.mapError_eq_error] at h
    obtain ⟨d, -, rfl⟩ := h
    exact ⟨d, rfl⟩
  | ebay =>
    simp only [readWith, read, Except.map_eq_error, Except.mapError_eq_error] at h
    obtain ⟨d, -, rfl⟩ := h
    exact ⟨d, rfl⟩
  | amazon =>
    simp only [readWith, readAmazon, Amazon.Bundle.read, Except.map_eq_error] at h
    cases ho : (Amazon.OrderDoc.decode order).mapError Amazon.decodeError with
    | error d =>
      obtain ⟨d, -, rfl⟩ := Except.mapError_eq_error.1 ho
      simp only [ho, bind, Except.bind, Except.error.injEq] at h
      exact ⟨d, h.symm⟩
    | ok o =>
      cases hi : items.mapM fun i => (Amazon.ItemDoc.decode i).mapError Amazon.decodeError with
      | error d =>
        simp only [ho, hi, bind, Except.bind, Except.error.injEq] at h
        subst h
        refine @Except.mapM_error _ _ _ _ (fun e => ∃ d : DecodeError, e = .invalidPayload .amazon d.message)
          (fun i e hie => ?_) _ _ hi
        obtain ⟨d, -, rfl⟩ := Except.mapError_eq_error.1 hie
        exact ⟨d, rfl⟩
      | ok is => simp [ho, hi, bind, Except.bind, pure, Except.pure] at h

theorem readWith_shopify (order : Json) (items : List Json) :
    readWith .shopify order items = (Shopify.OrderDoc.read order).map (shopify · order) := rfl

theorem translate_error {m : Marketplace} {order : Json} {items : List Json} {r : RawOrder}
    {e : SyncError} (hr : readWith m order items = .ok r) (ht : r.translate = .error e) :
    Rejects m e ∨ (m = .shopify ∧ e = SyncError.additionOverflow ∧ ∃ doc,
      Shopify.OrderDoc.read order = .ok doc ∧ doc.id.isSome ∧
        (Fields.Overflows doc.shippingLines ∨ Fields.Overflows doc.discountApplications)) := by
  cases m with
  | shopify =>
    obtain ⟨doc, hdoc, rfl⟩ := Except.map_eq_ok.1 hr
    rcases (Shopify.OrderDoc.translate_eq_error doc order e).1 ht with ⟨-, rfl⟩ | ⟨hid, rfl, hov⟩
    · exact .inl (.inr rfl)
    · exact .inr ⟨rfl, rfl, doc, hdoc, hid, hov⟩
  | ebay =>
    obtain ⟨doc, -, rfl⟩ := Except.map_eq_ok.1 hr
    obtain ⟨-, rfl⟩ := (Ebay.OrderDoc.translate_eq_error doc order e).1 ht
    exact .inl (.inr rfl)
  | amazon =>
    obtain ⟨b, -, rfl⟩ := Except.map_eq_ok.1 hr
    obtain ⟨-, rfl⟩ := (Amazon.Bundle.translate_eq_error b e).1 ht
    exact .inl (.inr rfl)

theorem additionOverflow_not_rejects (m : Marketplace) : ¬ Rejects m SyncError.additionOverflow := by
  rintro (⟨d, h⟩ | h) <;> cases h

/-- Normalizing an order document ends in an incoming order or in a rejection of the document,
except for a storefront order whose shipping lines or discounts add up beyond the decimal range:
that one ends in the addition overflow, and only that one does. -/
theorem normalize_outcome (m : Marketplace) (order : Json) (items : List Json) :
    (match (readWith m order items).bind translate with
     | .ok _ => True
     | .error e => Rejects m e ∨ (m = .shopify ∧ e = SyncError.additionOverflow)) ∧
    ((readWith m order items).bind translate = .error SyncError.additionOverflow ↔
      m = .shopify ∧ ∃ doc, Shopify.OrderDoc.read order = .ok doc ∧ doc.id.isSome ∧
        (Fields.Overflows doc.shippingLines ∨ Fields.Overflows doc.discountApplications)) := by
  refine ⟨?_, ⟨fun h => ?_, ?_⟩⟩
  · split
    · trivial
    · rename_i e he
      rcases Except.bind_eq_error.1 he with hr | ⟨r, hr, ht⟩
      · exact .inl (.inl (readWith_error hr))
      · rcases translate_error hr ht with hrej | ⟨hm, he, -⟩
        · exact .inl hrej
        · exact .inr ⟨hm, he⟩
  · rcases Except.bind_eq_error.1 h with hr | ⟨r, hr, ht⟩
    · obtain ⟨d, hd⟩ := readWith_error hr
      cases hd
    · rcases translate_error hr ht with hrej | ⟨hm, -, hdoc⟩
      · exact absurd hrej (additionOverflow_not_rejects m)
      · exact ⟨hm, hdoc⟩
  · rintro ⟨rfl, doc, hdoc, hid, hov⟩
    rw [readWith_shopify, hdoc]
    exact (Shopify.OrderDoc.translate_eq_error doc order _).2 (.inr ⟨hid, rfl, hov⟩)

end RawOrder

/-- A storefront order with two shipping lines of `5e28` each: their sum passes the decimal range. -/
def overflowingOrder : Json :=
  let line : Json := .obj [("price", .num (.float ⟨0x45e431e0fae6d721⟩))]
  .obj [("id", .num (.unsigned 1)), ("shipping_lines", .arr [line, line])]

/-- Normalizing it ends in the addition overflow, neither an order nor a rejection. -/
theorem shipping_sum_overflow :
    (RawOrder.readWith .shopify overflowingOrder []).bind RawOrder.translate =
      .error SyncError.additionOverflow := by
  have h : (match (RawOrder.readWith .shopify overflowingOrder []).bind RawOrder.translate with
      | .error (.overflow t) => decide (t = "Addition overflowed")
      | _ => false) = true := by
    decide +kernel
  split at h
  · next heq => simpa [heq, SyncError.additionOverflow] using h
  · cases h

end SellerSync
