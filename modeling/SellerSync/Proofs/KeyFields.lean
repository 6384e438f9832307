import SellerSync.Proofs.LowerText
import SellerSync.Proofs.Normalization
/-! The fields that name a stored record are canonical once a marketplace document is translated:
absent, or a key text. -/
namespace SellerSync

variable {α β : Type}

namespace Text

/-- An optional key: absent, or a key text. -/
def KeyOpt (v : Option String) : Prop := ∀ t ∈ v, KeyText t

/-- An optional email: absent, or a lowercase key text. -/
def EmailKey (v : Option String) : Prop := ∀ t ∈ v, KeyText t ∧ toLower t = t

@[simp] theorem keyOpt_none : KeyOpt none := by simp [KeyOpt]

@[simp] theorem keyOpt_some {t : String} : KeyOpt (some t) ↔ KeyText t := by simp [KeyOpt]

theorem KeyOpt.or {a b : Option String} (ha : KeyOpt a) (hb : KeyOpt b) : KeyOpt (a.or b) := by
  cases a with
  | none => exact hb
  | some t => exact ha

theorem KeyOpt.bind {o : Option α} {f : α → Option String} (hf : ∀ x, KeyOpt (f x)) :
    KeyOpt (o.bind f) := by
  cases o <;> simp [hf]

theorem keyText_of_not_blank {s : String} (hne : s ≠ "")
    (h : ∀ c ∈ s.toList, isBlank c = false) : KeyText s :=
  ⟨hne, fun c hc => h c (List.mem_of_head? hc), fun c hc => h c (List.mem_of_getLast? hc)⟩

theorem isBlank_of_isDigit {c : Char} (h : c.isDigit = true) : isBlank c = false := by
  rw [isDigit_iff] at h
  simp only [isBlank, Bool.or_eq_false_iff, Bool.and_eq_false_iff, decide_eq_false_iff_not,
    beq_eq_false_iff_ne]
  omega

theorem natRepr_not_blank (n : Nat) : ∀ c ∈ (Nat.repr n).toList, isBlank c = false := by
  intro c hc
  simp only [Nat.repr, String.toList_ofList] at hc
  exact isBlank_of_isDigit (Nat.isDigit_of_mem_toDigits (by decide) (by decide) hc)

theorem intRepr_not_blank (i : Int) : ∀ c ∈ (Int.repr i).toList, isBlank c = false := by
  cases i with
  | ofNat n => exact natRepr_not_blank n
  | negSucc n =>
    simp only [Int.repr, String.toList_append, List.mem_append]
    rintro c (hc | hc)
    · simp at hc; subst hc; decide
    · exact natRepr_not_blank _ c hc

end Text

open Text

/-! ## Number texts -/

namespace Binary64

theorem toJsonText_not_blank (x : Binary64) : ∀ c ∈ x.toJsonText.toList, isBlank c = false := by
  have hdig : ∀ c ∈ Nat.toDigits 10 x.shortest.1, isBlank c = false := fun c hc =>
    isBlank_of_isDigit (Nat.isDigit_of_mem_toDigits (by decide) (by decide) hc)
  have htake : ∀ n, ∀ c ∈ (Nat.toDigits 10 x.shortest.1).take n, isBlank c = false :=
    fun n c hc => hdig c (List.mem_of_mem_take hc)
  have hdrop : ∀ n, ∀ c ∈ (Nat.toDigits 10 x.shortest.1).drop n, isBlank c = false :=
    fun n c hc => hdig c (List.mem_of_mem_drop hc)
  have htail : ∀ c ∈ (Nat.toDigits 10 x.shortest.1).tail, isBlank c = false :=
    fun c hc => hdig c (List.mem_of_mem_tail hc)
  have hexp := intRepr_not_blank
  have hlit : isBlank '-' = false ∧ isBlank '.' = false ∧ isBlank '0' = false ∧
      isBlank 'e' = false ∧ isBlank '+' = false := by decide
  dsimp only [Binary64.toJsonText]
  split_ifs <;> simp [String.toList_append, Binary64.zeros, Nat.repr, hlit] <;> grind

theorem toJsonText_ne_empty (x : Binary64) : x.toJsonText ≠ "" := by
  dsimp only [Binary64.toJsonText]
  split_ifs <;> simp [String.append_eq_empty_iff]

end Binary64

theorem JsonNumber.keyText_render (n : JsonNumber) : KeyText n.render := by
  cases n with
  | unsigned n => exact keyText_of_not_blank Nat.repr_ne_empty (natRepr_not_blank n)
  | signed i =>
    have hne : i.repr ≠ "" := by cases i <;> simp [Int.repr, Nat.repr_ne_empty]
    exact keyText_of_not_blank hne (intRepr_not_blank i)
  | float x =>
    by_cases hx : x.isFinite
    · simpa [JsonNumber.render, hx] using
        keyText_of_not_blank x.toJsonText_ne_empty x.toJsonText_not_blank
    · have hnull : KeyText "null" := keyText_of_not_blank (by simp) (by simp [isBlank])
      simpa [JsonNumber.render, hx] using hnull

/-! ## Field normalizers -/

namespace Fields

theorem keyOpt_nonEmpty? (s : String) : KeyOpt (nonEmpty? s) := by
  by_cases h : trim s = ""
  · simp [nonEmpty?, h]
  · simpa [nonEmpty?, h] using keyText_trim h

theorem keyOpt_optNonEmpty (s : Option String) : KeyOpt (optNonEmpty s) :=
  KeyOpt.bind keyOpt_nonEmpty?

theorem emailKey_email? (s : Option String) : EmailKey (email? s) := by
  intro t ht
  obtain ⟨e, he, rfl⟩ := Option.mem_map.1 ht
  exact ⟨(keyOpt_optNonEmpty s e he).toLower, toLower_toLower e⟩

theorem keyOpt_id? (j : Json) : KeyOpt (id? j) := by
  cases j with
  | str s => exact keyOpt_nonEmpty? s
  | num n => exact keyOpt_some.2 n.keyText_render
  | _ => exact keyOpt_none

theorem nonEmpty?_blank_append {pad s pad' : String} (hpad : ∀ c ∈ pad.toList, isBlank c)
    (hpad' : ∀ c ∈ pad'.toList, isBlank c) : nonEmpty? (pad ++ s ++ pad') = nonEmpty? s := by
  simp only [nonEmpty?, trim_blank_append hpad hpad']

theorem email?_eq_of_toLower_trim {s s' : String} (h : toLower (trim s) = toLower (trim s')) :
    email? (some s) = email? (some s') := by
  have hempty : ∀ t : String, toLower t = "" ↔ t = "" := fun t => by
    simp [Text.toLower, ← String.toList_eq_nil_iff, lowerChars_eq_nil_iff]
  by_cases hs : trim s = ""
  · have hs' : trim s' = "" := by rw [← hempty, ← h, hempty]; exact hs
    simp [email?, optNonEmpty, nonEmpty?, hs, hs']
  · have hs' : trim s' ≠ "" := by rwa [ne_eq, ← hempty, ← h, hempty]
    simp [email?, optNonEmpty, nonEmpty?, hs, hs', h]

end Fields

namespace Except

variable {ε : Type}

theorem mapM_ok {f : α → Except ε β} {P : β → Prop}
    (hf : ∀ a b, f a = .ok b → P b) :
    ∀ {xs : List α} {bs : List β}, xs.mapM f = .ok bs → ∀ b ∈ bs, P b
  | [], bs, h => by
    simp only [List.mapM_nil, pure, Except.pure, Except.ok.injEq] at h
    simp [← h]
  | x :: xs, bs, h => by
    rw [List.mapM_cons] at h
    cases hx : f x with
    | error d => simp [hx, bind, Except.bind] at h
    | ok b =>
      cases hxs : xs.mapM f with
      | error d => simp [hx, hxs, bind, Except.bind] at h
      | ok bs' =>
        simp only [hx, hxs, bind, Except.bind, pure, Except.pure, Except.ok.injEq] at h
        subst h
        simpa [hf x b hx] using mapM_ok hf hxs

theorem mapError_eq_ok {ε' : Type} {x : Except ε α} {g : ε → ε'} {a : α} :
    x.mapError g = .ok a ↔ x = .ok a := by
  cases x <;> simp [Except.mapError]

end Except

/-! ## Record readers -/

namespace Record

/-- Every value the reader gives, from any source and in any state, satisfies `P`. -/
def Always (P : α → Prop) (b : RecordM α) : Prop :=
  ∀ src st, P ((b.run src).run st).1

theorem Always.of_forall {P : α → Prop} {b : RecordM α} (h : ∀ a, P a) : Always P b :=
  fun _ _ => h _

theorem Always.imp {P Q : α → Prop} {b : RecordM α} (hb : Always P b) (h : ∀ a, P a → Q a) :
    Always Q b :=
  fun src st => h _ (hb src st)

theorem always_pure {P : α → Prop} {a : α} (h : P a) : Always P (pure a) :=
  fun _ _ => h

theorem Always.bind {x : RecordM α} {f : α → RecordM β} {Q : β → Prop}
    (h : Always (fun a => Always Q (f a)) x) : Always Q (x >>= f) := by
  intro src st
  simp only [ReaderT.run_bind, StateT.run_bind]
  exact h src st src _

theorem fieldOf_always [Inhabited α] (names : List String) {d : Decoder α} {absent : Absent α}
    (P : α → Prop) (hd : ∀ j a, d j = .ok a → P a) (hdefault : P default)
    (habs : ∀ a, (absent = .optional a ∨ absent = .fallback a) → P a) :
    Always P (fieldOf names d absent) := by
  rintro ⟨srcName, count, members, items⟩ st
  unfold Record.fieldOf
  simp only [read, readThe, MonadReaderOf.read, ReaderT.read, get,
    getThe, MonadStateOf.get, StateT.get, set, MonadStateOf.set, StateT.set, ReaderT.run,
    StateT.run, liftM, monadLift, MonadLift.monadLift, ReaderT.bind, StateT.bind, bind, pure,
    StateT.pure, fault, modify, modifyGet, MonadStateOf.modifyGet]
  cases members with
  | some fs =>
    dsimp only
    cases List.find? (fun p => names.contains p.1) fs with
    | some kv =>
      obtain ⟨k, v⟩ := kv
      dsimp only
      cases hdv : d v with
      | ok a => exact hd v a hdv
      | error e => exact hdefault
    | none =>
      cases absent with
      | fallback a => exact habs a (.inr rfl)
      | optional a => exact habs a (.inl rfl)
      | required => exact hdefault
  | none =>
    dsimp only
    cases items[st.index]? with
    | some v =>
      simp only [Option.map_some]
      cases hdv : d v with
      | ok a => exact hd v a hdv
      | error e => exact hdefault
    | none =>
      cases absent with
      | fallback a => exact habs a (.inr rfl)
      | _ => exact hdefault

theorem Always.of_run {P : α → Prop} {b : RecordM α} (hb : Always P b) {name : String} {n : Nat}
    {j : Json} {a : α} (h : run name n b j = .ok a) : P a := by
  cases j with
  | obj fs =>
    have hp := hb ⟨name, n, some fs, []⟩ {}
    rcases hrun : (b.run ⟨name, n, some fs, []⟩).run {} with ⟨a', st⟩
    simp only [Record.run, hrun] at h
    rw [hrun] at hp
    split at h
    · cases h
    · cases h; exact hp
  | arr xs =>
    have hp := hb ⟨name, n, none, xs⟩ {}
    rcases hrun : (b.run ⟨name, n, none, xs⟩).run {} with ⟨a', st⟩
    simp only [Record.run, hrun] at h
    rw [hrun] at hp
    split at h
    · cases h
    · split at h
      · cases h
      · cases h; exact hp
  | _ => cases h

theorem always_looseId (name : String) : Always KeyOpt (dflt name Fields.looseId none) :=
  fieldOf_always [name] KeyOpt (fun j a h => by cases h; exact Fields.keyOpt_id? j) keyOpt_none
    (by rintro a (h | h) <;> cases h; exact keyOpt_none)

theorem always_opt (name : String) {d : Decoder α} {P : α → Prop}
    (hd : ∀ j a, d j = .ok a → P a) : Always (fun o => ∀ a ∈ o, P a) (opt name d) := by
  refine fieldOf_always [name] _ (fun j o h => ?_) (by simp) (by rintro a (h | h) <;> cases h; simp)
  cases j with
  | null => cases h; simp
  | _ =>
    obtain ⟨a, ha, rfl⟩ := Except.map_eq_ok.1 h
    simpa using hd _ a ha

theorem always_nullableList (name : String) {d : Decoder α} {P : α → Prop}
    (hd : ∀ j a, d j = .ok a → P a) :
    Always (fun l => ∀ a ∈ l, P a) (dflt name (Fields.nullableList d) []) := by
  refine fieldOf_always [name] _ (fun j l h => ?_) (fun _ hv => (List.not_mem_nil hv).elim)
    (by rintro a (h | h) <;> cases h; simp)
  cases j with
  | null => cases h; simp
  | arr xs => exact Except.mapM_ok hd h
  | _ => cases h

end Record

/-! ## Canonical keys of translated records -/

/-- The customer's external id, email and phone are canonical. -/
structure IncomingCustomer.CanonicalKeys (c : IncomingCustomer) : Prop where
  externalId : KeyOpt c.externalId
  email : EmailKey c.email
  phone : KeyOpt c.phone

/-- The line's external ids and SKU are canonical. -/
structure IncomingLine.CanonicalKeys (l : IncomingLine) : Prop where
  externalLineId : KeyOpt l.externalLineId
  externalItemId : KeyOpt l.externalItemId
  sku : KeyOpt l.sku

/-- The order's external id is a key text, and its customer and lines have canonical keys. -/
structure IncomingOrder.CanonicalKeys (o : IncomingOrder) : Prop where
  externalOrderId : KeyText o.externalOrderId
  customer : ∀ c ∈ o.customer, c.CanonicalKeys
  lines : ∀ l ∈ o.lines, l.CanonicalKeys

/-- The stock record's variant id, SKU and location are canonical. -/
structure IncomingStock.CanonicalKeys (s : IncomingStock) : Prop where
  externalVariantId : KeyOpt s.externalVariantId
  sku : KeyOpt s.sku
  locationId : KeyOpt s.locationId

theorem IncomingOrder.canonicalKeys_of {o : IncomingOrder} {cs : Option β} {ls : List α}
    {toCustomer : β → IncomingCustomer} {toLine : α → IncomingLine}
    (hid : KeyText o.externalOrderId) (hc : o.customer = cs.map toCustomer)
    (hl : o.lines = ls.map toLine) (hcs : ∀ c ∈ cs, (toCustomer c).CanonicalKeys)
    (hls : ∀ l ∈ ls, (toLine l).CanonicalKeys) : o.CanonicalKeys := by
  refine ⟨hid, fun c hc' => ?_, fun l hl' => ?_⟩
  · rw [hc] at hc'
    obtain ⟨c, hc, rfl⟩ := Option.mem_map.1 hc'
    exact hcs c hc
  · rw [hl] at hl'
    obtain ⟨l, hl, rfl⟩ := List.mem_map.1 hl'
    exact hls l hl

/-! ## Storefront documents -/

open Record

namespace Shopify

theorem CustomerDoc.keyOpt_id {j : Json} {c : CustomerDoc} (h : CustomerDoc.decode j = .ok c) :
    KeyOpt c.id := by
  refine Always.of_run (P := fun c : CustomerDoc => KeyOpt c.id) ?_ h
  refine Always.bind ((always_looseId "id").imp fun id hid => ?_)
  iterate 5 refine Always.bind (Always.of_forall fun _ => ?_)
  exact always_pure hid

theorem LineDoc.keyOpt_ids {j : Json} {l : LineDoc} (h : LineDoc.decode j = .ok l) :
    KeyOpt l.id ∧ KeyOpt l.variantId := by
  refine Always.of_run (P := fun l : LineDoc => KeyOpt l.id ∧ KeyOpt l.variantId) ?_ h
  refine Always.bind ((always_looseId "id").imp fun id hid => ?_)
  refine Always.bind ((always_looseId "variant_id").imp fun variant hvariant => ?_)
  iterate 9 refine Always.bind (Always.of_forall fun _ => ?_)
  exact always_pure ⟨hid, hvariant⟩

/-- What the order reader gives of the ids it reads loosely. -/
def OrderDoc.LooseKeys (o : OrderDoc) : Prop :=
  KeyOpt o.id ∧ (∀ c ∈ o.customer, KeyOpt c.id) ∧
    ∀ l ∈ o.lineItems, KeyOpt l.id ∧ KeyOpt l.variantId

theorem OrderDoc.looseKeys_decode {j : Json} {o : OrderDoc} (h : OrderDoc.decode j = .ok o) :
    o.LooseKeys := by
  refine Always.of_run ?_ h
  refine Always.bind ((always_looseId "id").imp fun id hid => ?_)
  iterate 10 refine Always.bind (Always.of_forall fun _ => ?_)
  refine Always.bind ((always_opt "customer" fun _ _ => CustomerDoc.keyOpt_id).imp fun c hc => ?_)
  refine Always.bind (Always.of_forall fun _ => ?_)
  refine Always.bind ((always_nullableList "line_items" fun _ _ => LineDoc.keyOpt_ids).imp
    fun ls hls => ?_)
  exact always_pure ⟨hid, hc, hls⟩

theorem OrderDoc.canonicalKeys_translate {o : OrderDoc} (ho : o.LooseKeys) {raw : Json}
    {io : IncomingOrder} (h : o.translate raw = .ok io) : io.CanonicalKeys := by
  obtain ⟨hid, hcust, hlines⟩ := ho
  unfold OrderDoc.translate at h
  cases hoid : o.id with
  | none => simp [hoid, throw, throwThe, MonadExceptOf.throw] at h
  | some oid =>
    simp only [hoid] at h
    cases hs : Fields.sumKnown o.shippingLines with
    | error e => simp [hs, bind, Except.bind] at h
    | ok st =>
      cases hd : Fields.sumKnown o.discountApplications with
      | error e => simp [hs, hd, bind, Except.bind] at h
      | ok dt =>
        simp only [hs, hd, bind, Except.bind, pure, Except.pure, Except.ok.injEq] at h
        subst h
        refine IncomingOrder.canonicalKeys_of (hid oid hoid) rfl rfl (fun c hc => ?_) fun l hl => ?_
        · exact ⟨hcust c hc, Fields.emailKey_email? _, Fields.keyOpt_optNonEmpty _⟩
        · exact ⟨(hlines l hl).1, (hlines l hl).2, Fields.keyOpt_optNonEmpty _⟩

theorem canonicalKeys_translateLevel {j : Json} {s : IncomingStock}
    (h : translateLevel j = .ok s) : s.CanonicalKeys := by
  unfold translateLevel at h
  cases hl : LevelDoc.decode j with
  | error e => simp [hl, Except.mapError, bind, Except.bind] at h
  | ok l =>
    have hkeys : KeyOpt l.inventoryItemId ∧ KeyOpt l.locationId := by
      refine Always.of_run (P := fun l : LevelDoc => KeyOpt l.inventoryItemId ∧ KeyOpt l.locationId)
        ?_ hl
      refine Always.bind ((always_looseId "inventory_item_id").imp fun item hitem => ?_)
      refine Always.bind ((always_looseId "location_id").imp fun loc hloc => ?_)
      exact Always.bind (Always.of_forall fun _ => always_pure ⟨hitem, hloc⟩)
    cases hv : l.inventoryItemId with
    | none => simp [hl, hv, Except.mapError, bind, Except.bind, throw, throwThe, MonadExceptOf.throw] at h
    | some v =>
      simp only [hl, hv, Except.mapError, bind, Except.bind, pure, Except.pure, Except.ok.injEq] at h
      subst h
      exact ⟨keyOpt_some.2 (hkeys.1 v hv), keyOpt_none, hkeys.2⟩

end Shopify

/-! ## eBay documents -/

namespace Ebay

theorem LineDoc.keyOpt_ids {j : Json} {l : LineDoc} (h : LineDoc.decode j = .ok l) :
    KeyOpt l.lineItemId ∧ KeyOpt l.legacyItemId := by
  refine Always.of_run (P := fun l : LineDoc => KeyOpt l.lineItemId ∧ KeyOpt l.legacyItemId) ?_ h
  refine Always.bind ((always_looseId "lineItemId").imp fun id hid => ?_)
  refine Always.bind ((always_looseId "legacyItemId").imp fun item hitem => ?_)
  iterate 13 refine Always.bind (Always.of_forall fun _ => ?_)
  exact always_pure ⟨hid, hitem⟩

/-- What the order reader gives of the ids it reads loosely. -/
def OrderDoc.LooseKeys (o : OrderDoc) : Prop :=
  KeyOpt o.orderId ∧ KeyOpt o.legacyOrderId ∧
    ∀ l ∈ o.lineItems, KeyOpt l.lineItemId ∧ KeyOpt l.legacyItemId

theorem OrderDoc.looseKeys_decode {j : Json} {o : OrderDoc} (h : OrderDoc.decode j = .ok o) :
    o.LooseKeys := by
  refine Always.of_run ?_ h
  refine Always.bind ((always_looseId "orderId").imp fun id hid => ?_)
  refine Always.bind ((always_looseId "legacyOrderId").imp fun legacy hlegacy => ?_)
  iterate 8 refine Always.bind (Always.of_forall fun _ => ?_)
  refine Always.bind ((always_nullableList "lineItems" fun _ _ => LineDoc.keyOpt_ids).imp
    fun ls hls => ?_)
  exact always_pure ⟨hid, hlegacy, hls⟩

theorem OrderDoc.canonicalKeys_buyerCustomer (o : OrderDoc) (b : BuyerDoc) (raw : Json) :
    (o.buyerCustomer b raw).CanonicalKeys :=
  ⟨Fields.keyOpt_optNonEmpty _, Fields.emailKey_email? _,
    KeyOpt.bind fun _ => Fields.keyOpt_optNonEmpty _⟩

theorem OrderDoc.canonicalKeys_translate {o : OrderDoc} (ho : o.LooseKeys) {raw : Json}
    {io : IncomingOrder} (h : o.translate raw = .ok io) : io.CanonicalKeys := by
  obtain ⟨hid, hlegacy, hlines⟩ := ho
  unfold OrderDoc.translate at h
  cases hoid : o.orderId.or o.legacyOrderId with
  | none => simp [hoid, throw, throwThe, MonadExceptOf.throw] at h
  | some oid =>
    simp only [hoid, pure, Except.pure, Except.ok.injEq] at h
    subst h
    refine IncomingOrder.canonicalKeys_of ((hid.or hlegacy) oid hoid) rfl rfl
      (fun b _ => o.canonicalKeys_buyerCustomer b raw) fun l hl => ?_
    exact ⟨(hlines l hl).1, (hlines l hl).2,
      (Fields.keyOpt_optNonEmpty _).or (Fields.keyOpt_optNonEmpty _)⟩

theorem canonicalKeys_translateItem {j : Json} {s : IncomingStock}
    (h : translateItem j = .ok s) : s.CanonicalKeys := by
  unfold translateItem at h
  cases hi : ItemDoc.decode j with
  | error e => simp [hi, Except.mapError, bind, Except.bind] at h
  | ok i =>
    cases hsku : Fields.optNonEmpty i.sku with
    | none =>
      simp [hi, hsku, Except.mapError, bind, Except.bind, throw, throwThe, MonadExceptOf.throw] at h
    | some sku =>
      simp only [hi, hsku, Except.mapError, bind, Except.bind, pure, Except.pure,
        Except.ok.injEq] at h
      subst h
      exact ⟨keyOpt_none, hsku ▸ Fields.keyOpt_optNonEmpty i.sku, keyOpt_none⟩

end Ebay

/-! ## Amazon documents -/

namespace Amazon

theorem Bundle.canonicalKeys_customer (b : Bundle) : b.customer.CanonicalKeys :=
  ⟨(Fields.keyOpt_optNonEmpty _).or (Fields.keyOpt_optNonEmpty _), Fields.emailKey_email? _,
    Fields.keyOpt_optNonEmpty _⟩

theorem Bundle.canonicalKeys_translate {b : Bundle} {io : IncomingOrder}
    (h : b.translate = .ok io) : io.CanonicalKeys := by
  unfold Bundle.translate at h
  cases hoid : Fields.optNonEmpty b.order.amazonOrderId with
  | none => simp [hoid, throw, throwThe, MonadExceptOf.throw] at h
  | some oid =>
    simp only [hoid, pure, Except.pure, Except.ok.injEq] at h
    subst h
    refine IncomingOrder.canonicalKeys_of (Fields.keyOpt_optNonEmpty _ oid hoid)
      (show _ = (some b).map Bundle.customer from rfl) rfl (fun b _ => b.canonicalKeys_customer)
      fun i _ => ?_
    exact ⟨Fields.keyOpt_optNonEmpty _, Fields.keyOpt_optNonEmpty _, Fields.keyOpt_optNonEmpty _⟩

end Amazon

namespace RawOrder

theorem canonicalKeys_translate {m : Marketplace} {order : Json} {items : List Json}
    {r : RawOrder} {o : IncomingOrder} (hr : readWith m order items = .ok r)
    (ht : r.translate = .ok o) : o.CanonicalKeys := by
  cases m with
  | shopify =>
    obtain ⟨doc, hdoc, rfl⟩ := Except.map_eq_ok.1 hr
    exact Shopify.OrderDoc.canonicalKeys_translate
      (Shopify.OrderDoc.looseKeys_decode (Except.mapError_eq_ok.1 hdoc)) ht
  | ebay =>
    obtain ⟨doc, hdoc, rfl⟩ := Except.map_eq_ok.1 hr
    exact Ebay.OrderDoc.canonicalKeys_translate
      (Ebay.OrderDoc.looseKeys_decode (Except.mapError_eq_ok.1 hdoc)) ht
  | amazon =>
    obtain ⟨b, -, rfl⟩ := Except.map_eq_ok.1 hr
    exact Amazon.Bundle.canonicalKeys_translate ht

theorem canonicalKeys_readStock {m : Marketplace} {j : Json} {s : IncomingStock}
    (h : readStock m j = .ok s) : s.CanonicalKeys := by
  cases m with
  | shopify => exact Shopify.canonicalKeys_translateLevel h
  | ebay => exact Ebay.canonicalKeys_translateItem h
  | amazon => cases h

end RawOrder

/-- Every order and every stock record that a marketplace document normalizes to has canonical
keys, and the keys do not see blanks around a field nor the case of an email. -/
theorem normalized_keys_canonical :
    (∀ (m : Marketplace) (order : Json) (items : List Json) (o : IncomingOrder),
      (RawOrder.readWith m order items).bind RawOrder.translate = .ok o → o.CanonicalKeys) ∧
    (∀ (m : Marketplace) (j : Json) (s : IncomingStock),
      RawOrder.readStock m j = .ok s → s.CanonicalKeys) ∧
    (∀ pad s pad' : String, (∀ c ∈ pad.toList, isBlank c) → (∀ c ∈ pad'.toList, isBlank c) →
      Fields.nonEmpty? (pad ++ s ++ pad') = Fields.nonEmpty? s) ∧
    (∀ s s' : String, toLower (trim s) = toLower (trim s') →
      Fields.email? (some s) = Fields.email? (some s')) := by
  refine ⟨fun m order items o h => ?_, fun m j s h => RawOrder.canonicalKeys_readStock h,
    fun _ _ _ hpad hpad' => Fields.nonEmpty?_blank_append hpad hpad',
    fun _ _ h => Fields.email?_eq_of_toLower_trim h⟩
  cases hr : RawOrder.readWith m order items with
  | error e => simp [hr, Except.bind] at h
  | ok r => exact RawOrder.canonicalKeys_translate hr (by simpa [hr, Except.bind] using h)

/-- A SKU sent with a space before it and a tab after it has the key of the bare SKU, and so has an
email sent with a space before it. -/
theorem normalized_keys_padded_fields :
    Fields.nonEmpty? (" " ++ "SKU-1" ++ "\t") = Fields.nonEmpty? "SKU-1" ∧
      Fields.email? (some (" " ++ "Ann@Example.com")) = Fields.email? (some "Ann@Example.com") :=
  ⟨normalized_keys_canonical.2.2.1 " " "SKU-1" "\t" (by simp [isBlank]) (by simp [isBlank]),
    normalized_keys_canonical.2.2.2 _ _ (by
      rw [show " " ++ "Ann@Example.com" = " " ++ "Ann@Example.com" ++ "" by rw [String.append_empty],
        trim_blank_append (by simp [isBlank]) (by simp)])⟩

end SellerSync
